import Mathlib.Order.Bounds.Basic
import Swatch.Proofs.RenderedLength

/-! Integers in the five bases. An integer is written with the fewest digits that its
magnitude takes, and a minus sign stands in front of them exactly if it is negative.
The text is read as that integer again, so that no two integers share one. Only in
decimal are there integers that are not written, those with more digits than the
limit; a channel of a sample is far below them. -/
namespace Swatch.IntegerNumerals
open NumeralDigits RenderedLength

variable {base : Base} {value : Int} {radix n d : Nat} {c : Char} {text : Text}

/-- What stands in front of the digits of an integer. -/
def sign (value : Int) : Text := if value < 0 then ['-'] else []

/-- Integers that are written in a base: in decimal, those within the limit of
digits. -/
def Writable (base : Base) (value : Int) : Prop :=
  base = .decimal → value.natAbs < 10 ^ Numeral.digitLimit

theorem signed_eq (base : Base) (value : Int) :
    base.signed value = sign value ++ base.numeral value.natAbs := by
  rw [Base.signed, sign]
  split <;> rfl

theorem signed_natCast (base : Base) (n : Nat) : base.signed n = base.numeral n := by
  rw [signed_eq, sign, if_neg (by omega), Int.natAbs_natCast, List.nil_append]

theorem not_writable_iff : ¬Writable base value ↔
    base = .decimal ∧ Numeral.digitLimit < (base.numeral value.natAbs).length := by
  rw [Writable, Classical.not_imp, not_lt]
  refine and_congr_right fun decimal => ?_
  have some : Numeral.digitLimit ≠ 0 := by decide
  rw [← not_le, length_numeral, digitCount_le_iff some, not_lt, decimal, Base.radix]

theorem render_of_writable (writable : Writable base value) :
    base.render value = .ok (base.signed value) :=
  if_neg fun long => not_writable_iff.mpr long writable

theorem render_of_not_writable (long : ¬Writable base value) :
    base.render value = .error ⟨value⟩ :=
  if_pos (not_writable_iff.mp long)

/-- What is written is the sign and the digits of an integer within the limit. -/
theorem render_ok_iff :
    base.render value = .ok text ↔ Writable base value ∧ base.signed value = text := by
  by_cases writable : Writable base value
  · simp [render_of_writable writable, writable]
  · simp [render_of_not_writable writable, writable]

theorem writable_byte (base : Base) (byte : UInt8) : Writable base byte.toNat := by
  intro _
  have small : 256 < 10 ^ 3 := by decide
  have room : 10 ^ 3 ≤ 10 ^ Numeral.digitLimit := Nat.pow_le_pow_right (by decide) (by decide)
  exact (byte.toNat_lt.trans small).trans_le room

/-- The least number with more decimal digits than the limit. -/
theorem not_writable_power : ¬Writable .decimal (10 ^ 4300 : Nat) := by
  intro writable
  have below := writable rfl
  rw [Int.natAbs_natCast, Numeral.digitLimit] at below
  exact lt_irrefl _ below

/-- Whatever the base, the channel that an expansion shows is written, and then
padded. -/
theorem render_expansion (e : Expansion) (s : Sample) : ∃ digits,
    e.base.render (s.channel e.channel).toNat = .ok digits ∧ e.render s = digits.padded e.pad :=
  ⟨_, render_of_writable (writable_byte _ _), by rw [signed_natCast, Expansion.render]⟩

end Swatch.IntegerNumerals
