import Mathlib
import Swatch.Preset
import Swatch.Proofs.CompactableColors
import Swatch.Proofs.SampleSpelling

/-! What the hexadecimal presets print is read back, whatever blanks are put
around it, as the color that was printed, without its transparency. The compact
presets leave out the second of two equal digits, and do so for all channels or
for none. -/
namespace Swatch.HexPresets
open CompactableColors HexNumber NumeralDigits SampleSpelling TextCutting

variable {base : Base} {n d : Nat} {s : Sample} {before after digits : Text}

/-- The names of the hexadecimal presets, each full one with the compact one. -/
def names : List (Text × Text) := [("hex".toList, "hex!".toList), ("HEX".toList, "HEX!".toList)]

/-- All three visible channels are multiples of seventeen, which are the bytes of
two equal digits. -/
structure Repeating (s : Sample) : Prop where
  red : 17 ∣ s.red.toNat
  green : 17 ∣ s.green.toNat
  blue : 17 ∣ s.blue.toNat

/-- A number sign and three hexadecimal digits. -/
structure ShortForm (text digits : Text) : Prop where
  marked : text = '#' :: digits
  three : digits.length = 3
  hexadecimal : ∀ c ∈ digits, ∃ d, Digit c d

/-- Every digit written twice. -/
def doubled (digits : Text) : Text := digits.flatMap fun d => [d, d]

private theorem compactable_byte (byte : UInt8) :
    isCompactableChannel byte.toNat = true ↔ 17 ∣ byte.toNat := by
  have bound := byte.toNat_lt
  rw [isCompactableChannel_iff]
  constructor
  · rintro ⟨k, low, _, value⟩
    exact ⟨k.toNat, by omega⟩
  · rintro ⟨k, value⟩
    exact ⟨k, by omega, by omega, by omega⟩

theorem isCompactable_iff (s : Sample) : s.isCompactable = true ↔ Repeating s := by
  simp only [Sample.isCompactable, isCompactable, Bool.and_eq_true, compactable_byte, and_assoc]
  constructor
  · rintro ⟨red, green, blue⟩
    exact ⟨red, green, blue⟩
  · intro repeating
    exact ⟨repeating.red, repeating.green, repeating.blue⟩

theorem numeral_of_lt (small : n < base.radix) : base.numeral n = [base.digitChar n] := by
  rw [Base.numeral, Numeral.digits, Numeral.digitsOnto, if_pos (.inl small)]
  rfl

theorem numeral_of_lt_square (large : base.radix ≤ n) (small : n < base.radix * base.radix) :
    base.numeral n = [base.digitChar (n / base.radix), base.digitChar (n % base.radix)] := by
  have two := base.two_le_radix
  have quotient : n / base.radix < base.radix := Nat.div_lt_of_lt_mul small
  rw [Base.numeral, Numeral.digits, Numeral.digitsOnto, if_neg (by omega), Numeral.digitsOnto,
    if_pos (.inl quotient)]
  rfl

/-- A byte has two hexadecimal digits, of which the first may be a zero. -/
theorem padded_byte (hex : base.radix = 16) (byte : n < 256) :
    (base.numeral n).leftpad 2 '0' = [base.digitChar (n / 16), base.digitChar (n % 16)] := by
  by_cases small : n < 16
  · have zero : base.digitChar 0 = '0' := rfl
    rw [numeral_of_lt (by omega), Nat.div_eq_of_lt small, Nat.mod_eq_of_lt small, zero]
    rfl
  · rw [numeral_of_lt_square (by omega) (by rw [hex]; omega), hex]
    rfl

theorem digit_digitChar (hex : base.radix = 16) (small : d < 16) : Digit (base.digitChar d) d := by
  have read := digit?_digitChar base (hex.symm ▸ small : d < base.radix)
  rw [hex] at read
  exact digit?_eq_some_iff.mp read

theorem denotes_pair {c c' : Char} {d d' : Nat} (high : Digit c d) (low : Digit c' d') :
    Denotes [c, c'] (d * 16 + d') := by
  have one : Denotes [c] (0 * 16 + d) := Denotes.snoc .nil high
  simpa using one.snoc low

private theorem denotes_byte (hex : base.radix = 16) (byte : UInt8) :
    Denotes [base.digitChar (byte.toNat / 16), base.digitChar (byte.toNat % 16)] byte.toNat := by
  have bound := byte.toNat_lt
  have pair := denotes_pair (digit_digitChar hex (d := byte.toNat / 16) (by omega))
    (digit_digitChar hex (d := byte.toNat % 16) (by omega))
  rwa [show byte.toNat / 16 * 16 + byte.toNat % 16 = byte.toNat by omega] at pair

/-- The full form is a number sign and the two digits of each channel. -/
theorem hexText_full (hex : base.radix = 16) (s : Sample) : Preset.hexText base false s =
    ['#', base.digitChar (s.red.toNat / 16), base.digitChar (s.red.toNat % 16),
      base.digitChar (s.green.toNat / 16), base.digitChar (s.green.toNat % 16),
      base.digitChar (s.blue.toNat / 16), base.digitChar (s.blue.toNat % 16)] := by
  simp only [Preset.hexText, Bool.false_eq_true, if_false, List.flatMap_cons, List.flatMap_nil,
    padded_byte hex (UInt8.toNat_lt _)]
  rfl

theorem hexText_short (hex : base.radix = 16) (s : Sample) : Preset.hexText base true s =
    ['#', base.digitChar (s.red.toNat % 16), base.digitChar (s.green.toNat % 16),
      base.digitChar (s.blue.toNat % 16)] := by
  have single : ∀ n, base.numeral (n % 16) = [base.digitChar (n % 16)] :=
    fun n => numeral_of_lt (by omega)
  simp [Preset.hexText, single]

/-- The short form of a repeating color is the full one with half the digits. -/
theorem shortForm_of_repeating (hex : base.radix = 16) (repeating : Repeating s) : ∃ digits,
    ShortForm (Preset.hexText base true s) digits ∧
      Preset.hexText base false s = '#' :: doubled digits := by
  have halves : ∀ byte : UInt8, 17 ∣ byte.toNat → byte.toNat / 16 = byte.toNat % 16 := by
    intro byte multiple
    have bound := byte.toNat_lt
    omega
  refine ⟨_, ⟨hexText_short hex s, rfl, ?_⟩, ?_⟩
  · simp only [List.mem_cons, List.not_mem_nil, or_false]
    rintro c (rfl | rfl | rfl) <;> exact ⟨_, digit_digitChar hex (Nat.mod_lt _ (by decide))⟩
  · rw [hexText_full hex, halves _ repeating.red, halves _ repeating.green, halves _ repeating.blue]
    rfl

theorem full_spells (hex : base.radix = 16) (s : Sample) :
    Spells .digits (Preset.hexText base false s) (.solid s.red s.green s.blue) := by
  rw [hexText_full hex]
  exact .digits (.inr rfl) (.full rfl
    ⟨denotes_byte hex s.red, denotes_byte hex s.green, denotes_byte hex s.blue⟩)

theorem short_spells (hex : base.radix = 16) (repeating : Repeating s) :
    Spells .digits (Preset.hexText base true s) (.solid s.red s.green s.blue) := by
  have double : ∀ byte : UInt8, 17 ∣ byte.toNat →
      Denotes [base.digitChar (byte.toNat % 16), base.digitChar (byte.toNat % 16)] byte.toNat := by
    intro byte multiple
    have bound := byte.toNat_lt
    have pair := denotes_byte hex byte
    rwa [show byte.toNat / 16 = byte.toNat % 16 by omega] at pair
  rw [hexText_short hex]
  exact .digits (.inr rfl) (.short rfl
    ⟨double _ repeating.red, double _ repeating.green, double _ repeating.blue⟩)

/-- A spelling is read as it is with blanks around it. -/
theorem read_surrounded {text : Text} (blankBefore : Blank before) (blankAfter : Blank after)
    (spells : Spells .digits text s) : Sample.read (before ++ text ++ after) = .ok s :=
  read_between blankBefore blankAfter (trimmed_of_digits spells) spells

section Compact
variable (hex : base.radix = 16)
include hex

theorem compact_spells (s : Sample) :
    Spells .digits (Preset.hexText base s.isCompactable s) (.solid s.red s.green s.blue) := by
  cases compactable : s.isCompactable with
  | true => exact short_spells hex ((isCompactable_iff s).mp compactable)
  | false => exact full_spells hex s

theorem shortForm_iff : (∃ digits, ShortForm (Preset.hexText base s.isCompactable s) digits) ↔
    Repeating s := by
  rw [← isCompactable_iff]
  cases compactable : s.isCompactable with
  | true =>
    obtain ⟨digits, short, _⟩ := shortForm_of_repeating hex ((isCompactable_iff s).mp compactable)
    exact ⟨fun _ => rfl, fun _ => ⟨digits, short⟩⟩
  | false =>
    refine ⟨?_, fun impossible => absurd impossible (by simp)⟩
    rintro ⟨digits, marked, three, _⟩
    rw [hexText_full hex, List.cons.injEq] at marked
    rw [← marked.2] at three
    cases three

theorem full_of_short (short : ShortForm (Preset.hexText base s.isCompactable s) digits) :
    Preset.hexText base false s = '#' :: doubled digits := by
  have repeating := (shortForm_iff hex).mp ⟨digits, short⟩
  obtain ⟨others, otherShort, full⟩ := shortForm_of_repeating hex repeating
  have marked := short.marked
  rw [(isCompactable_iff s).mpr repeating, otherShort.marked, List.cons.injEq] at marked
  rw [full, marked.2]

end Compact

/-- A hexadecimal preset prints a color that is read back without its
transparency, also with blanks around it. The compact preset of a pair prints
three digits for exactly the colors whose channels are multiples of seventeen.
These digits, each of them twice, are what the full preset prints, and all other
colors are printed by both alike. -/
theorem hex_presets_exact (s : Sample) {full compact : Text} (listed : (full, compact) ∈ names) :
    ∃ p q, Preset.ofName full = .ok p ∧ Preset.ofName compact = .ok q ∧
      (∀ before after, Blank before → Blank after →
        Sample.read (before ++ p.render s ++ after) = .ok (.solid s.red s.green s.blue) ∧
        Sample.read (before ++ q.render s ++ after) = .ok (.solid s.red s.green s.blue)) ∧
      ((∃ digits, ShortForm (q.render s) digits) ↔ Repeating s) ∧
      (∀ digits, ShortForm (q.render s) digits → p.render s = '#' :: doubled digits) ∧
      (¬Repeating s → q.render s = p.render s) := by
  obtain ⟨base, hex, p, q, resolved, compactResolved, rendered, compactRendered⟩ :
      ∃ base : Base, base.radix = 16 ∧ ∃ p q : Preset, Preset.ofName full = .ok p ∧
        Preset.ofName compact = .ok q ∧ p.render s = Preset.hexText base false s ∧
        q.render s = Preset.hexText base s.isCompactable s := by
    simp only [names, List.mem_cons, List.not_mem_nil, or_false, Prod.mk.injEq] at listed
    rcases listed with ⟨rfl, rfl⟩ | ⟨rfl, rfl⟩
    · exact ⟨.lowerHex, rfl, _, _, rfl, rfl, rfl, rfl⟩
    · exact ⟨.upperHex, rfl, _, _, rfl, rfl, rfl, rfl⟩
  refine ⟨p, q, resolved, compactResolved, ?_, ?_, ?_, ?_⟩
  · intro before after blankBefore blankAfter
    rw [rendered, compactRendered]
    exact ⟨read_surrounded blankBefore blankAfter (full_spells hex s),
      read_surrounded blankBefore blankAfter (compact_spells hex s)⟩
  · rw [compactRendered]
    exact shortForm_iff hex
  · intro digits short
    rw [compactRendered] at short
    rw [rendered, full_of_short hex short]
  · intro different
    rw [← isCompactable_iff, Bool.not_eq_true] at different
    rw [rendered, compactRendered, different]

/-- A color that is not opaque, in upper case and between blanks, and one whose
blue channel alone does not repeat its digit. -/
theorem hex_presets_exact_upper :
    ("HEX".toList, "HEX!".toList) ∈ names ∧
    (Repeating ⟨18, 238, 51, 0⟩ ∧
      Sample.read "\u2003\t#E30\n".toList = .ok (.solid 238 51 0) ∧
      Preset.render ⟨.upperHex, .full⟩ ⟨18, 238, 51, 0⟩ = '#' :: doubled "E30".toList) ∧
    ¬Repeating ⟨255, 238, 51, 1⟩ ∧
      Preset.render ⟨.upperHex, .compact⟩ ⟨255, 238, 51, 1⟩ = "#EE3301".toList := by
  have listed : ("HEX".toList, "HEX!".toList) ∈ names := by simp [names]
  have full : Preset.ofName "HEX".toList = .ok ⟨.upperHex, .full⟩ := rfl
  have compact : Preset.ofName "HEX!".toList = .ok ⟨.upperHex, .compact⟩ := rfl
  refine ⟨listed, ?_, ?_⟩
  · obtain ⟨p, q, named, compactNamed, read, short, double, _⟩ :=
      hex_presets_exact ⟨18, 238, 51, 0⟩ listed
    obtain rfl := Except.ok.inj (full.symm.trans named)
    obtain rfl := Except.ok.inj (compactNamed.symm.trans compact)
    have printed : Preset.render ⟨.upperHex, .compact⟩ ⟨18, 238, 51, 0⟩ = "#E30".toList := by cbv
    have digits : ShortForm "#E30".toList "E30".toList :=
      ⟨rfl, rfl, by
        have e : Digit 'E' (10 + 4) := .upper (by decide) rfl
        have three : Digit '3' 3 := .decimal (by decide) rfl
        have zero : Digit '0' 0 := .decimal (by decide) rfl
        simpa using ⟨⟨14, e⟩, ⟨3, three⟩, ⟨0, zero⟩⟩⟩
    have surrounded := (read "\u2003\t".toList "\n".toList (by decide) (by decide)).2
    rw [printed] at short surrounded double
    exact ⟨short.mp ⟨_, digits⟩, surrounded, double _ digits⟩
  · obtain ⟨p, q, named, compactNamed, _, _, _, alike⟩ := hex_presets_exact ⟨255, 238, 51, 1⟩ listed
    obtain rfl := Except.ok.inj (full.symm.trans named)
    obtain rfl := Except.ok.inj (compactNamed.symm.trans compact)
    have different : ¬Repeating ⟨255, 238, 51, 1⟩ := fun repeating => by
      have := repeating.blue
      revert this
      decide
    rw [alike different]
    exact ⟨different, by cbv⟩

end Swatch.HexPresets
