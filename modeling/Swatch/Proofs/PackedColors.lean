import Mathlib
import Swatch.Proofs.HexPresets
import Swatch.Proofs.SampleExactness

/-! Colors and their packed numbers. The channels of a color lie side by side in a
number of 32 bits, so that joining their bits loses nothing and taking a number apart
gives them back. A packed number can also be written down: with all of its eight
digits, or with as few as it takes. -/
namespace Swatch.PackedColors
open HexNumber NumeralDigits SampleExactness SampleSpelling TextCutting

variable {base : Base} {digits : Text} {s : Sample} {value : Int}

/-- The packed form, joined from the bits of the channels. -/
def joined (s : Sample) : Nat :=
  s.alpha.toNat <<< 24 ||| s.red.toNat <<< 16 ||| s.green.toNat <<< 8 ||| s.blue.toNat

/-- The eight bits of a number from a place on, as a channel value that is yet to be
checked. -/
def bitsFrom (value : Int) (place : Nat) : Value :=
  .scalar (.int ((value.toNat >>> place &&& 0xFF : Nat) : Int))

/-- A number taken apart bit by bit. Its range is checked first, and then each of the
channel values. -/
def separated (value : Int) : Except SampleError Sample :=
  if 0 ≤ value ∧ value ≤ 0xFFFFFFFF then
    Sample.ofValues (bitsFrom value 24) (bitsFrom value 16) (bitsFrom value 8) (bitsFrom value 0)
  else .error (.packed value)

/-- A packed number with all of its eight digits. -/
def fullForm (base : Base) (n : Nat) : Text := '#' :: (base.numeral n).leftpad 8 '0'

/-- A packed number with as few digits as it has. -/
def shortForm (base : Base) (n : Nat) : Text := '0' :: 'x' :: base.numeral n

/-- Bits that lie below those of a shifted number are added to it. -/
theorem or_below {low place : Nat} (below : low < 2 ^ place) (high : Nat) :
    high * 2 ^ place ||| low = high * 2 ^ place + low := by
  rw [Nat.mul_comm, Nat.two_pow_add_eq_or_of_lt below]

theorem joined_eq (s : Sample) : joined s = s.packed := by
  have red := s.red.toNat_lt
  have green := s.green.toNat_lt
  have blue := s.blue.toNat_lt
  have upper : s.alpha.toNat <<< 24 ||| s.red.toNat <<< 16 =
      (s.alpha.toNat * 2 ^ 8 + s.red.toNat) * 2 ^ 16 := by
    rw [Nat.shiftLeft_eq, Nat.shiftLeft_eq, or_below (by omega)]
    omega
  have lower : s.green.toNat <<< 8 ||| s.blue.toNat = s.green.toNat * 2 ^ 8 + s.blue.toNat := by
    rw [Nat.shiftLeft_eq, or_below blue]
  rw [joined, Nat.or_assoc, upper, lower, or_below (by omega), Sample.packed]
  omega

theorem bitsFrom_eq (value : Int) (place : Nat) : bitsFrom value place =
    .scalar (.int ((value.toNat / 2 ^ place % 256 : Nat) : Int)) := by
  rw [bitsFrom, Nat.shiftRight_eq_div_pow, Nat.and_two_pow_sub_one_eq_mod _ 8]

theorem channelOf_bitsFrom (letter : Char) (value : Int) (place : Nat) :
    Sample.channelOf letter (bitsFrom value place) =
      .ok (UInt8.ofNat (value.toNat / 2 ^ place)) := by
  rw [bitsFrom_eq, channelOf_byte letter (by omega)]
  exact congrArg Except.ok UInt8.ofNat_mod_size

/-- The checks on the channels never fail on eight bits. -/
theorem separated_eq (value : Int) : separated value = Sample.ofPacked value := by
  have range : 0 ≤ value ∧ value ≤ 0xFFFFFFFF ↔ 0 ≤ value ∧ value < 0x100000000 := by omega
  simp only [separated, Sample.ofPacked, range, Sample.ofValues, channelOf_bitsFrom,
    Nat.reducePow, Nat.div_one]
  rfl

theorem ofPacked_eq_ok_iff : Sample.ofPacked value = .ok s ↔ (s.packed : Int) = value := by
  have small := packed_lt s
  rw [Sample.ofPacked]
  split
  · rename_i range
    rw [Except.ok.injEq, ofBytes_eq_iff (by omega)]
    omega
  · rename_i outside
    simp only [reduceCtorEq, false_iff]
    omega

theorem exists_ofPacked_iff : (∃ s, Sample.ofPacked value = .ok s) ↔ 0 ≤ value ∧ value < 2 ^ 32 := by
  simp only [ofPacked_eq_ok_iff]
  constructor
  · rintro ⟨s, rfl⟩
    have small := packed_lt s
    omega
  · rintro ⟨low, high⟩
    refine ⟨Sample.ofBytes value.toNat, ?_⟩
    rw [packed_ofBytes (by omega)]
    omega

theorem denotes_numeral (hex : base.radix = 16) (n : Nat) : Denotes (base.numeral n) n := by
  have read := read?_numeral base n
  rw [hex] at read
  exact (read?_eq_some_iff.mp read).2

theorem denotes_leftpad (hex : base.radix = 16) (n width : Nat) :
    Denotes ((base.numeral n).leftpad width '0') n := by
  have read := read?_leftpad base n width
  rw [hex] at read
  exact (read?_eq_some_iff.mp read).2

theorem length_numeral_le (hex : base.radix = 16) (s : Sample) :
    (base.numeral s.packed).length ≤ 8 := by
  have bound : s.packed < base.radix ^ 8 := by
    rw [hex]
    exact packed_lt s
  rw [Base.numeral, List.length_map]
  exact length_digits_le base.two_le_radix (by decide) bound

/-- Eight digits after a number sign spell the color that they pack, whatever their
case. -/
theorem spells_marked (eight : digits.length = 8) (denotes : Denotes digits s.packed) :
    Spells .digits ('#' :: digits) s := by
  have read : Sample.readHex? digits = some s := by
    simp only [Sample.readHex?, eight]
    exact readPacked?_eq_some_iff.mpr ⟨by omega, by omega, denotes⟩
  have marked : Spells .digits (['#'] ++ digits) s :=
    .digits (.inr rfl) (readHex?_eq_some_iff.mp read)
  exact marked

theorem read_fullForm (hex : base.radix = 16) (s : Sample) :
    Sample.read (fullForm base s.packed) = .ok s := by
  have eight : ((base.numeral s.packed).leftpad 8 '0').length = 8 := by
    rw [List.length_leftpad, max_eq_left (length_numeral_le hex s)]
  have spells := spells_marked eight (denotes_leftpad hex s.packed 8)
  exact read_of_spells (trimmed_of_digits spells) spells

theorem read_shortForm (hex : base.radix = 16) (s : Sample) :
    Sample.read (shortForm base s.packed) = .ok s := by
  have some := List.length_pos_iff.mpr (numeral_ne_nil base s.packed)
  have spells : Spells .packed (shortForm base s.packed) s :=
    .packed (.inl rfl) some (length_numeral_le hex s) (denotes_numeral hex _)
  exact read_of_spells (trimmed_of_packed spells) spells

/-- The packed colors are the numbers of 32 bits, each of which packs one color.
Joining the bits of the channels and taking them apart again are inverse to each
other. In hexadecimal digits of either case such a number is read as its color, with
all eight digits after a number sign and with the fewest after `0x`. -/
theorem packed_exact :
    (∀ value, (∃ s, Sample.ofPacked value = .ok s) ↔ 0 ≤ value ∧ value < 2 ^ 32) ∧
    (∀ value s, Sample.ofPacked value = .ok s ↔ (s.packed : Int) = value) ∧
    (∀ s : Sample, s.packed < 2 ^ 32 ∧ joined s = s.packed) ∧
    (∀ value, separated value = Sample.ofPacked value) ∧
    ∀ value : Int, 0 ≤ value → value < 2 ^ 32 → ∀ base ∈ [Base.lowerHex, Base.upperHex],
      ∃ s, Sample.ofPacked value = .ok s ∧ Sample.read (fullForm base value.toNat) = .ok s ∧
        Sample.read (shortForm base value.toNat) = .ok s := by
  refine ⟨fun _ => exists_ofPacked_iff, fun _ _ => ofPacked_eq_ok_iff,
    fun s => ⟨packed_lt s, joined_eq s⟩, separated_eq, ?_⟩
  intro value low high base member
  obtain ⟨s, unpacked⟩ := exists_ofPacked_iff.mpr ⟨low, high⟩
  have hex : base.radix = 16 := by
    simp only [List.mem_cons, List.not_mem_nil, or_false] at member
    rcases member with rfl | rfl <;> rfl
  have same : value.toNat = s.packed := by
    rw [← ofPacked_eq_ok_iff.mp unpacked, Int.toNat_natCast]
  rw [same]
  exact ⟨s, unpacked, read_fullForm hex s, read_shortForm hex s⟩

/-- A number with three leading zeros in its full form, of which its short form has
none. -/
theorem packed_exact_leading_zeros :
    Sample.ofPacked 0x000A0B0C = .ok ⟨0, 10, 11, 12⟩ ∧
      Sample.read "#000A0B0C".toList = .ok ⟨0, 10, 11, 12⟩ ∧
      Sample.read "0xa0b0c".toList = .ok ⟨0, 10, 11, 12⟩ := by
  obtain ⟨_, same, _, _, forms⟩ := packed_exact
  have unpacked : Sample.ofPacked 0x000A0B0C = .ok ⟨0, 10, 11, 12⟩ := (same _ _).mpr rfl
  have full : fullForm .upperHex 0x000A0B0C = "#000A0B0C".toList := by cbv
  have short : shortForm .lowerHex 0x000A0B0C = "0xa0b0c".toList := by cbv
  obtain ⟨s, found, fullRead, _⟩ := forms 0x000A0B0C (by decide) (by decide) .upperHex (by simp)
  obtain ⟨t, foundAgain, _, shortRead⟩ :=
    forms 0x000A0B0C (by decide) (by decide) .lowerHex (by simp)
  obtain rfl := Except.ok.inj (unpacked.symm.trans found)
  obtain rfl := Except.ok.inj (unpacked.symm.trans foundAgain)
  exact ⟨unpacked, full ▸ fullRead, short ▸ shortRead⟩

end Swatch.PackedColors
