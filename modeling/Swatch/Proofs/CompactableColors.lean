import Mathlib.Data.Int.Bitwise
import Swatch.Sample.Compaction

/-! The numbers that pass the test for equal digits. They are the bytes of two equal
hexadecimal digits, although the test takes any integer and only compares its lowest
four bits with all those above them: a number beyond a byte has more than four bits
left, and a negative number has infinitely many. -/
namespace Swatch.CompactableColors

variable {red green blue : Int}

/-- The test on the bits of a number. Shifted down by four places it has to be what
its lowest four bits are. -/
def halvesAgree (value : Int) : Bool := value >>> (4 : Nat) == Int.land value 0xF

/-- The bits that a number lacks among the lowest four make up the difference to all of
them. -/
private theorem ldiff_fifteen (n : Nat) : Nat.ldiff 15 n = 15 - n % 16 := by
  have lacking : 15 - n % 16 = 2 ^ 4 - (n % 2 ^ 4 + 1) := by omega
  have ones (place : Nat) : Nat.testBit 15 place = decide (place < 4) :=
    Nat.testBit_two_pow_sub_one 4 place
  apply Nat.eq_of_testBit_eq
  intro place
  rw [lacking, Nat.testBit_ldiff, ones, Nat.testBit_two_pow_sub_succ (by omega),
    Nat.testBit_mod_two_pow]
  by_cases low : place < 4 <;> simp [low]

/-- The lowest four bits of an integer are its remainder, of a negative one too. -/
theorem land_fifteen (value : Int) : Int.land value 0xF = value % 16 := by
  cases value with
  | ofNat n => exact congrArg Int.ofNat (Nat.and_two_pow_sub_one_eq_mod n 4)
  | negSucc n =>
    have masked : Int.land (Int.negSucc n) 0xF = (Nat.ldiff 15 n : Int) := rfl
    rw [masked, ldiff_fifteen]
    omega

theorem isCompactableChannel_eq (value : Int) : isCompactableChannel value = halvesAgree value := by
  rw [isCompactableChannel, halvesAgree, Int.shiftRight_eq_div_pow, land_fifteen]
  rfl

theorem isCompactableChannel_iff (value : Int) :
    isCompactableChannel value = true ↔ ∃ k, 0 ≤ k ∧ k ≤ 15 ∧ value = 17 * k := by
  rw [isCompactableChannel, beq_iff_eq]
  constructor
  · intro same
    exact ⟨value / 16, by omega, by omega, by omega⟩
  · rintro ⟨k, low, high, rfl⟩
    omega

theorem isCompactable_eq_all :
    isCompactable red green blue = [red, green, blue].all isCompactableChannel := by
  simp [isCompactable, Bool.and_assoc]

/-- Three integers are compactable exactly if each of them is seventeen times a digit,
which a number outside of a byte never is. The test on their bits is the same. -/
theorem compactable_exact (red green blue : Int) :
    (isCompactable red green blue = true ↔
      ∀ value ∈ [red, green, blue], ∃ k, 0 ≤ k ∧ k ≤ 15 ∧ value = 17 * k) ∧
    isCompactable red green blue = [red, green, blue].all halvesAgree ∧
    ∀ value ∈ [red, green, blue], value < 0 ∨ 255 < value →
      isCompactable red green blue = false := by
  have exactly : isCompactable red green blue = true ↔
      ∀ value ∈ [red, green, blue], ∃ k, 0 ≤ k ∧ k ≤ 15 ∧ value = 17 * k := by
    simp only [isCompactable_eq_all, List.all_eq_true, isCompactableChannel_iff]
  refine ⟨exactly, ?_, fun value member outside => ?_⟩
  · rw [isCompactable_eq_all]
    exact congrArg (List.all _) (funext isCompactableChannel_eq)
  · refine Bool.eq_false_iff.mpr fun passed => ?_
    obtain ⟨k, low, high, rfl⟩ := exactly.mp passed value member
    omega

/-- A number of three equal digits, and one all of whose bits are equal. -/
theorem compactable_exact_outside :
    isCompactable 0x00 0x11 0xFF = true ∧
    (255 < (0x111 : Int) ∧ isCompactable 0x11 0x111 0xFF = false) ∧
    (-1 : Int) < 0 ∧ isCompactable 0x11 0xFF (-1) = false := by
  obtain ⟨exactly, _, _⟩ := compactable_exact 0x00 0x11 0xFF
  obtain ⟨_, _, above⟩ := compactable_exact 0x11 0x111 0xFF
  obtain ⟨_, _, below⟩ := compactable_exact 0x11 0xFF (-1)
  refine ⟨exactly.mpr ?_, ⟨by decide, above 0x111 (by simp) (.inr (by decide))⟩, by decide,
    below (-1) (by simp) (.inl (by decide))⟩
  simp only [List.forall_mem_cons]
  exact ⟨⟨0, by decide⟩, ⟨1, by decide⟩, ⟨15, by decide⟩, nofun⟩

end Swatch.CompactableColors
