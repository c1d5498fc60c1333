import Swatch.Text.Basic

/-!
Halves of surrogate pairs. A half that stands alone is no character, but an escape in a document can
ask for one. Such a half is kept as a character from the end of the last private plane, so that a
text stays a list of characters. In the text of a document these characters are therefore taken for
halves; everywhere else they are themselves.
-/
namespace Swatch

/-- The code of the first half. -/
def firstHalf : Nat := 0xD800

/-- The private character that the first half is kept as. -/
def firstHalfStand : Nat := 0x10F000

/-- The number of halves. -/
def halfCount : Nat := 0x800

/-- The character that the half with a code is kept as. -/
def halfStand (code : Nat) : Char := Char.ofNat (firstHalfStand + (code - firstHalf))

/-- The code of the half that a character stands for. -/
def halfCode? (c : Char) : Option Nat :=
  if firstHalfStand ≤ c.toNat ∧ c.toNat < firstHalfStand + halfCount then
    some (firstHalf + (c.toNat - firstHalfStand))
  else none

/-- The code of a character, or of the half that it stands for. -/
def codeOrHalf (c : Char) : Nat := (halfCode? c).getD c.toNat

/-- Every half is found again in the character that it is kept as. -/
theorem halfCode?_halfStand {code : Nat} (low : firstHalf ≤ code)
    (high : code < firstHalf + halfCount) : halfCode? (halfStand code) = some code := by
  have bound : firstHalfStand + (code - firstHalf) < 0x10F800 := by
    simp only [firstHalfStand, firstHalf, halfCount] at high ⊢; omega
  have least : 0x10F000 ≤ firstHalfStand + (code - firstHalf) := Nat.le_add_right ..
  have valid : (firstHalfStand + (code - firstHalf)).isValidChar := by
    simp only [Nat.isValidChar]; omega
  have number : (halfStand code).toNat = firstHalfStand + (code - firstHalf) := by
    rw [halfStand, Char.ofNat, dif_pos valid]
    rfl
  have place : firstHalfStand ≤ (halfStand code).toNat ∧
      (halfStand code).toNat < firstHalfStand + halfCount := by
    rw [number]; exact ⟨least, bound⟩
  rw [halfCode?, if_pos place, number, Nat.add_sub_cancel_left, Nat.add_sub_cancel' low]

end Swatch
