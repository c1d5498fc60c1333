import Mathlib
import Swatch.Proofs.IntegerNumerals

/-! The laws of padding. A padded text is determined by its length and by what it
consists of, the fill and then the whole text, and so the wider of two paddings with
one fill does the work of both. Zeros in front of a numeral leave its number as it
is, where there is a numeral: in decimal, a number beyond the limit of digits has
none. Where a part of a color is converted, the zeros count as digits for that limit. -/
namespace Swatch.PaddingLaws
open IntegerNumerals NumeralDigits RenderedLength

variable {fill : Char} {width first second : Nat} {text padded further other : Text}

/-- A text behind as many copies of a fill as bring it to a width, which are none if
it is as long as that by itself. -/
structure Fills (fill : Char) (width : Nat) (text padded : Text) : Prop where
  length : padded.length = max text.length width
  front : ∃ front, padded = front ++ text ∧ ∀ c ∈ front, c = fill

theorem fills_padded (text : Text) (fill : Char) (narrow : width ≤ greatestPadWidth) :
    Fills fill width text (text.padded (some ⟨fill, width, narrow⟩)) := by
  refine ⟨?_, List.replicate (width - text.length) fill, rfl, ?_⟩
  · rw [length_padded, max_comm]
    rfl
  · exact fun c member => List.eq_of_mem_replicate member

theorem Fills.unique (left : Fills fill width text padded) (right : Fills fill width text other) :
    padded = other := by
  obtain ⟨front, rfl, copies⟩ := left.front
  obtain ⟨before, rfl, others⟩ := right.front
  have same : front.length = before.length := by
    have lengths := left.length.trans right.length.symm
    rwa [List.length_append, List.length_append, Nat.add_right_cancel_iff] at lengths
  rw [List.eq_replicate_of_mem copies, List.eq_replicate_of_mem others, same]

/-- Two paddings with one fill, one after the other, are one with the greater width. -/
theorem Fills.trans (inner : Fills fill first text padded)
    (outer : Fills fill second padded further) :
    Fills fill (max first second) text further := by
  refine ⟨by rw [outer.length, inner.length, max_assoc], ?_⟩
  obtain ⟨near, rfl, nearCopies⟩ := inner.front
  obtain ⟨far, rfl, farCopies⟩ := outer.front
  refine ⟨far ++ near, (List.append_assoc far near text).symm, fun c member => ?_⟩
  exact (List.mem_append.mp member).elim (farCopies c) (nearCopies c)

theorem make_of_narrow (fill : Char) (narrow : width ≤ greatestPadWidth) :
    Padding.make [fill] width = .ok ⟨fill, width, narrow⟩ := by
  simp [Padding.make, narrow]

/-- The digits of a number that is written are converted again behind zeros, unless
these exceed the limit of digits. -/
theorem readDecimal_padded {n : Nat} (writable : Writable .decimal n)
    (narrow : width ≤ greatestPadWidth) :
    Numeral.readDecimal ((Base.decimal.numeral n).padded (some ⟨'0', width, narrow⟩)) =
      if width ≤ Numeral.digitLimit then .ok n else .error ⟨width⟩ := by
  have short : (Base.decimal.numeral n).length ≤ Numeral.digitLimit := by
    by_contra long
    exact not_writable_iff.mpr ⟨rfl, by rwa [Int.natAbs_natCast, ← not_le]⟩ writable
  have value : Numeral.decimalValue
      ((Base.decimal.numeral n).padded (some ⟨'0', width, narrow⟩)) = n := by
    rw [Text.padded, Padding.apply, List.leftpad, decimalValue_zeros, decimalValue_numeral]
  have length := (fills_padded (Base.decimal.numeral n) '0' narrow).length
  rw [Numeral.readDecimal, value, length]
  by_cases fits : width ≤ Numeral.digitLimit
  · rw [if_pos fits, if_pos (max_le short fits)]
  · rw [if_neg fits, if_neg fun both => fits (le_trans (le_max_right _ _) both),
      max_eq_right (short.trans (Nat.le_of_not_le fits))]

/-- A fill and a width of at most sixteen bits are a padding. It brings a text to the
width with copies of the fill in front, or leaves a text alone that is as long. Done
twice it has the greater of the two widths. A number that is written is still denoted
by its digits when zeros are in front of them, and in decimal it is converted from them
unless that makes too many digits. -/
theorem padding_exact (text : Text) (fill : Char) (narrow : width ≤ greatestPadWidth)
    (firstNarrow : first ≤ greatestPadWidth) (secondNarrow : second ≤ greatestPadWidth) :
    Padding.make [fill] width = .ok ⟨fill, width, narrow⟩ ∧
    Fills fill width text (text.padded (some ⟨fill, width, narrow⟩)) ∧
    (text.padded (some ⟨fill, first, firstNarrow⟩)).padded (some ⟨fill, second, secondNarrow⟩) =
      text.padded (some ⟨fill, max first second, max_le firstNarrow secondNarrow⟩) ∧
    ∀ (base : Base) (n : Nat),
      (Writable base n → ∃ digits, base.render n = .ok digits ∧
        Numeral.read? base.radix (digits.padded (some ⟨'0', width, narrow⟩)) = some n ∧
        (base = .decimal → Numeral.readDecimal (digits.padded (some ⟨'0', width, narrow⟩)) =
          if width ≤ Numeral.digitLimit then .ok n else .error ⟨width⟩)) ∧
      (¬Writable base n → base.render n = .error ⟨n⟩) := by
  refine ⟨make_of_narrow fill narrow, fills_padded text fill narrow, ?_, fun base n => ?_⟩
  · have inner := fills_padded text fill firstNarrow
    have both := inner.trans (fills_padded _ fill secondNarrow)
    exact both.unique (fills_padded text fill (max_le firstNarrow secondNarrow))
  · refine ⟨fun writable => ⟨_, render_of_writable writable, ?_⟩, render_of_not_writable⟩
    rw [signed_natCast]
    refine ⟨read?_leftpad base n width, ?_⟩
    rintro rfl
    exact readDecimal_padded writable narrow

/-- A number that is not written cannot be read back, and a number of three digits is
not converted from them behind so many zeros that there are more than the limit. -/
theorem padded_not_read :
    (¬∃ digits, Base.decimal.render (10 ^ 4300 : Nat) = .ok digits ∧
      ∃ narrow : 2 ≤ greatestPadWidth,
        Numeral.read? 10 (digits.padded (some ⟨'0', 2, narrow⟩)) = some (10 ^ 4300)) ∧
    ∃ narrow : 4301 ≤ greatestPadWidth,
      Base.decimal.render (255 : Nat) = .ok "255".toList ∧
      Numeral.readDecimal (Text.padded "255".toList (some ⟨'0', 4301, narrow⟩)) =
        .error ⟨4301⟩ := by
  constructor
  · rintro ⟨digits, written, _⟩
    exact not_writable_power (render_ok_iff.mp written).1
  · have narrow : 4301 ≤ greatestPadWidth := by decide
    have digits : Base.decimal.numeral 255 = "255".toList := by cbv
    have beyond : ¬4301 ≤ Numeral.digitLimit := Nat.not_le.mpr (Nat.lt_succ_self _)
    have unread := readDecimal_padded (n := 255) (writable_byte .decimal 255) narrow
    rw [digits, if_neg beyond] at unread
    exact ⟨narrow, by cbv, unread⟩

/-- A text that goes beyond its width, the greatest width after a smaller one, and
numbers that go beyond their width in binary and in decimal. -/
theorem padding_exact_widest :
    ∃ (narrow : 2 ≤ greatestPadWidth) (most : 65535 ≤ greatestPadWidth),
      Fills '0' 2 "255".toList "255".toList ∧
      (Text.padded ['7'] (some ⟨'é', 2, narrow⟩)).padded (some ⟨'é', 65535, most⟩) =
        Text.padded ['7'] (some ⟨'é', 65535, most⟩) ∧
      Numeral.read? 2 "11111111".toList = some 255 ∧
      Numeral.read? 10 "255".toList = some 255 ∧ Numeral.readDecimal "255".toList = .ok 255 := by
  have narrow : 2 ≤ greatestPadWidth := by decide
  have most : 65535 ≤ greatestPadWidth := by decide
  obtain ⟨_, fills, _, _⟩ := padding_exact "255".toList '0' narrow narrow most
  obtain ⟨_, _, twice, read⟩ := padding_exact ['7'] 'é' narrow narrow most
  have bits : Base.binary.render (255 : Nat) = .ok "11111111".toList := by cbv
  have digits : Base.decimal.render (255 : Nat) = .ok "255".toList := by cbv
  obtain ⟨_, written, readBits, _⟩ := (read .binary 255).1 (writable_byte .binary 255)
  obtain rfl := Except.ok.inj (bits.symm.trans written)
  obtain ⟨_, written, readDigits, converted⟩ := (read .decimal 255).1 (writable_byte .decimal 255)
  obtain rfl := Except.ok.inj (digits.symm.trans written)
  exact ⟨narrow, most, fills, twice, readBits, readDigits, converted rfl⟩

end Swatch.PaddingLaws
