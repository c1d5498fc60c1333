import Swatch.Proofs.RenderedLength
import Swatch.Proofs.SampleSpelling

/-! Decimal triples that templates write, and that are read back. A padding with
blanks stays outside the number that it pads, and one with zeros goes in front of
it without changing it. The zeros count as digits, so that there must not be more
of them than are turned into a number. -/
namespace Swatch.PaddedTriples
open NumeralDigits RenderedLength SampleSpelling TemplateGrammar TextCutting

variable {text first second third digits : Text} {n : Nat}

/-- One to five digits for a width up to a bound. -/
structure SpellsWidth (digits : Text) (most : Nat) : Prop where
  some : 1 ≤ digits.length
  few : digits.length ≤ 5
  decimal : ∀ c ∈ digits, '0' ≤ c ∧ c ≤ '9'
  bound : number digits ≤ most

/-- The texts of paddings through which a decimal number is still read: none at
all, a blank and any width, or a zero and a width up to the most digits that are
turned into a number. -/
inductive Transparent : Text → Prop where
  | absent : Transparent []
  | blanks {fill : Char} {digits : Text} :
      isBlank fill = true → SpellsWidth digits 65535 → Transparent (fill :: digits)
  | zeros {digits : Text} : SpellsWidth digits 4300 → Transparent ('0' :: digits)

/-- An expansion in decimal behind the text of its padding. -/
def expansionText (pad : Text) (channel : Channel) : Text :=
  "%\x7b".toList ++ pad ++ [channel.letter, '\x7d']

/-- The three channels with commas between them. -/
def tripleText (red green blue : Text) : Text :=
  expansionText red .red ++ ",".toList ++ expansionText green .green ++ ",".toList ++
    expansionText blue .blue

def tripleNodes (red green blue : Option Padding) : List Node :=
  [.expansion ⟨.red, .decimal, red⟩, .literal ",".toList, .expansion ⟨.green, .decimal, green⟩,
    .literal ",".toList, .expansion ⟨.blue, .decimal, blue⟩]

/-- A padding with blanks, or with zeros that do not make a number too long. -/
def Clear (pad : Padding) : Prop := isBlank pad.fill = true ∨ pad.fill = '0' ∧ pad.width ≤ 4300

/-- Decimal digits that are turned into a number. -/
structure Convertible (digits : Text) (n : Nat) : Prop where
  decimal : Sample.isDecimalPart digits = true
  few : digits.length ≤ 4300
  value : Numeral.decimalValue digits = n

/-- The texts of a number, which may have blanks in front. -/
inductive Legible (n : Nat) : Text → Prop where
  | behind {blanks digits : Text} :
      Blank blanks → Convertible digits n → Legible n (blanks ++ digits)

theorem spellsPadding_of_width {pad : Padding} {fill : Char} {most : Nat} (same : pad.fill = fill)
    (width : number digits = pad.width) (spells : SpellsWidth digits most) :
    SpellsPadding (fill :: digits) (some pad) :=
  same ▸ .given pad spells.some spells.few spells.decimal width

theorem clear_of_transparent (transparent : Transparent text) :
    ∃ pad : Option Padding, SpellsPadding text pad ∧ ∀ p ∈ pad, Clear p := by
  cases transparent with
  | absent => exact ⟨none, .absent, nofun⟩
  | @blanks fill digits blank spells =>
    let pad : Padding := ⟨fill, number digits, spells.bound⟩
    refine ⟨some pad, spellsPadding_of_width rfl rfl spells, fun p member => ?_⟩
    obtain rfl := Option.some.inj member
    exact .inl blank
  | @zeros digits spells =>
    let pad : Padding := ⟨'0', number digits, spells.bound.trans (by decide)⟩
    refine ⟨some pad, spellsPadding_of_width rfl rfl spells, fun p member => ?_⟩
    obtain rfl := Option.some.inj member
    exact .inr ⟨rfl, spells.bound⟩

theorem spells_expansionText {pad : Text} {padding : Option Padding} (channel : Channel)
    (spells : SpellsPadding pad padding) :
    Spells (expansionText pad channel) (.expansion ⟨channel, .decimal, padding⟩) := by
  have spelled := Spells.expansion channel spells .absent
  simpa [expansionText] using spelled

theorem percent_mem_expansionText (pad : Text) (channel : Channel) :
    '%' ∈ expansionText pad channel := by
  simp [expansionText]

/-- Three expansions with commas between them are accepted, whatever fills their
widths. -/
theorem parse_tripleText {red green blue : Option Padding} (firstSpells : SpellsPadding first red)
    (secondSpells : SpellsPadding second green) (thirdSpells : SpellsPadding third blue) :
    Template.parse (tripleText first second third) =
      .ok ⟨tripleNodes red green blue, tripleText first second third⟩ := by
  let pieces : List (Text × Node) := [
    (expansionText first .red, .expansion ⟨.red, .decimal, red⟩),
    (",".toList, .literal ",".toList),
    (expansionText second .green, .expansion ⟨.green, .decimal, green⟩),
    (",".toList, .literal ",".toList),
    (expansionText third .blue, .expansion ⟨.blue, .decimal, blue⟩)]
  have comma : Spells ",".toList (.literal ",".toList) := .run (by decide) (by decide)
  have decomposes : Decomposes (tripleText first second third) pieces := by
    refine ⟨by simp [pieces, tripleText], ?_, by simp [pieces, percent_mem_expansionText]⟩
    intro piece member
    simp only [pieces, List.mem_cons, List.not_mem_nil, or_false] at member
    rcases member with rfl | rfl | rfl | rfl | rfl
    · exact spells_expansionText .red firstSpells
    · exact comma
    · exact spells_expansionText .green secondSpells
    · exact comma
    · exact spells_expansionText .blue thirdSpells
  exact parse_of_decomposes decomposes

theorem isDecimalPart_numeral (n : Nat) : Sample.isDecimalPart (Base.decimal.numeral n) = true :=
  isDecimalPart_iff.mpr
    ⟨numeral_ne_nil .decimal n, fun _ member => isDecimal_iff.mp (numeral_isDecimal member)⟩

theorem isDecimalPart_zeros (k : Nat) (decimal : Sample.isDecimalPart digits = true) :
    Sample.isDecimalPart (List.replicate k '0' ++ digits) = true := by
  obtain ⟨nonempty, valid⟩ := isDecimalPart_iff.mp decimal
  refine isDecimalPart_iff.mpr ⟨List.append_ne_nil_of_right_ne_nil _ nonempty, fun c member => ?_⟩
  rcases List.mem_append.mp member with zero | inside
  · rw [List.eq_of_mem_replicate zero]
    decide
  · exact valid c inside

theorem convertible_numeral (byte : UInt8) :
    Convertible (Base.decimal.numeral byte.toNat) byte.toNat := by
  refine ⟨isDecimalPart_numeral _, ?_, decimalValue_numeral _⟩
  rw [length_numeral]
  exact (digitCount_byte .decimal byte).trans (by decide)

/-- Zeros in front of digits are digits. -/
theorem Convertible.zeros {k : Nat} (convertible : Convertible digits n)
    (few : (List.replicate k '0' ++ digits).length ≤ 4300) :
    Convertible (List.replicate k '0' ++ digits) n :=
  ⟨isDecimalPart_zeros k convertible.decimal, few,
    (decimalValue_zeros k digits).trans convertible.value⟩

theorem Convertible.legible (convertible : Convertible digits n) : Legible n digits :=
  .behind blank_nil convertible

/-- A byte behind a clear padding is the text of its number. -/
theorem legible_padded {pad : Option Padding} (clear : ∀ p ∈ pad, Clear p) (byte : UInt8) :
    Legible byte.toNat ((Base.decimal.numeral byte.toNat).padded pad) := by
  have convertible := convertible_numeral byte
  cases pad with
  | none => exact convertible.legible
  | some p =>
    obtain ⟨fill, width, _⟩ := p
    rcases clear _ rfl with blank | ⟨rfl, narrow⟩
    · refine .behind (fun c member => ?_) convertible
      rwa [List.eq_of_mem_replicate member]
    · have few : ((Base.decimal.numeral byte.toNat).leftpad width '0').length ≤ 4300 := by
        rw [List.length_leftpad]
        exact max_le narrow convertible.few
      exact (convertible.zeros few).legible

theorem Legible.trim (legible : Legible n text) : Convertible text.trim n := by
  cases legible with
  | @behind blanks digits blank convertible =>
    have trimmed := trim_surrounded digits blank blank_nil
    rw [List.append_nil, trim_of_digits convertible.decimal] at trimmed
    rwa [trimmed]

theorem Legible.comma_notMem (legible : Legible n text) : ',' ∉ text := by
  cases legible with
  | behind blank convertible =>
    rw [List.mem_append]
    rintro (member | member)
    · exact absurd (blank _ member) (by decide)
    · exact absurd ((isDecimalPart_iff.mp convertible.decimal).2 _ member) (by decide)

theorem number_of_convertible (convertible : Convertible digits n) : number digits = n := by
  rw [← decimalValue_eq_number (isDecimalPart_iff.mp convertible.decimal).2, convertible.value]

/-- Three numbers with commas between them spell the sample that has these
channels. -/
theorem spells_triple {s : Sample} (alpha : s.alpha = 255) (red : Legible s.red.toNat first)
    (green : Legible s.green.toNat second) (blue : Legible s.blue.toNat third) :
    Spells .triple (first ++ ',' :: (second ++ ',' :: third)) s := by
  have trims : ∀ part ∈ [first, second, third], ∃ n, Convertible part.trim n := by
    simp only [List.forall_mem_cons]
    exact ⟨⟨_, red.trim⟩, ⟨_, green.trim⟩, ⟨_, blue.trim⟩, nofun⟩
  have triple : DecimalTriple (first ++ ',' :: (second ++ ',' :: third)) first second third := by
    refine ⟨rfl, ?_, fun part member => ?_, fun part member => ?_⟩
    · simp [red.comma_notMem, green.comma_notMem, blue.comma_notMem]
    · obtain ⟨n, convertible⟩ := trims part member
      exact (isDecimalPart_iff.mp convertible.decimal).1
    · obtain ⟨n, convertible⟩ := trims part member
      exact (isDecimalPart_iff.mp convertible.decimal).2
  refine .triple triple (fun part member => ?_) alpha (number_of_convertible red.trim)
    (number_of_convertible green.trim) (number_of_convertible blue.trim)
  obtain ⟨n, convertible⟩ := trims part member
  exact convertible.few

/-- The blanks in front of the first number are outside of the triple, and those of
the others inside it. -/
theorem read_legible {s : Sample} (alpha : s.alpha = 255) (red : Legible s.red.toNat first)
    (green : Legible s.green.toNat second) (blue : Legible s.blue.toNat third) :
    Sample.read (first ++ ',' :: (second ++ ',' :: third)) = .ok s := by
  cases red with
  | @behind outer redDigits outerBlank redConvertible =>
    cases blue with
    | @behind inner blueDigits innerBlank blueConvertible =>
      have spells := spells_triple alpha redConvertible.legible green
        (.behind innerBlank blueConvertible)
      have redGiven := (isDecimalPart_iff.mp redConvertible.decimal).1
      have blueGiven := (isDecimalPart_iff.mp blueConvertible.decimal).1
      have trimmed :
          Trimmed (redDigits ++ (',' :: (second ++ ',' :: inner) ++ blueDigits)) :=
        trimmed_between (trimmed_of_decimal redConvertible.decimal)
          (trimmed_of_decimal blueConvertible.decimal) redGiven blueGiven
      have split : ',' :: (second ++ ',' :: inner) ++ blueDigits =
          ',' :: (second ++ ',' :: (inner ++ blueDigits)) := by simp
      rw [split] at trimmed
      have read := read_between outerBlank blank_nil trimmed spells
      rwa [List.append_nil, ← List.append_assoc] at read

theorem render_tripleNodes (red green blue : Option Padding) (source : Text) (s : Sample) :
    Template.render ⟨tripleNodes red green blue, source⟩ s =
      (Base.decimal.numeral s.red.toNat).padded red ++
        ',' :: ((Base.decimal.numeral s.green.toNat).padded green ++
          ',' :: (Base.decimal.numeral s.blue.toNat).padded blue) := by
  simp [Template.render, tripleNodes, Node.render, Expansion.render, Sample.channel]

/-- A template of three expansions in decimal with commas between them writes every
color so that it is read back without its transparency, as long as each expansion has
a padding that a reader of numbers sees through: blanks up to any width, or zeros up
to the most digits of a number. -/
theorem padded_triple_read (s : Sample) (red : Transparent first) (green : Transparent second)
    (blue : Transparent third) :
    ∃ template, Template.parse (tripleText first second third) = .ok template ∧
      Sample.read (template.render s) = .ok (.solid s.red s.green s.blue) := by
  obtain ⟨redPad, redSpells, redClear⟩ := clear_of_transparent red
  obtain ⟨greenPad, greenSpells, greenClear⟩ := clear_of_transparent green
  obtain ⟨bluePad, blueSpells, blueClear⟩ := clear_of_transparent blue
  refine ⟨_, parse_tripleText redSpells greenSpells blueSpells, ?_⟩
  rw [render_tripleNodes]
  exact read_legible rfl (legible_padded redClear s.red) (legible_padded greenClear s.green)
    (legible_padded blueClear s.blue)

/-- The widest padding with a blank that is no space, the widest one with zeros, and
none. -/
theorem padded_triple_read_widest :
    Transparent "\u200365535".toList ∧ Transparent "04300".toList ∧ Transparent [] ∧
    ∃ template, Template.parse "%\x7b\u200365535r\x7d,%\x7b04300g\x7d,%\x7bb\x7d".toList =
        .ok template ∧
      Sample.read (template.render ⟨0, 7, 0, 255⟩) = .ok (.solid 7 0 255) := by
  have widest : SpellsWidth ['6', '5', '5', '3', '5'] 65535 :=
    ⟨by decide, by decide, by simp, by decide⟩
  have longest : SpellsWidth ['4', '3', '0', '0'] 4300 :=
    ⟨by decide, by decide, by simp, by decide⟩
  have blanks : Transparent "\u200365535".toList := .blanks (by decide) widest
  have zeros : Transparent "04300".toList := .zeros longest
  exact ⟨blanks, zeros, .absent, padded_triple_read ⟨0, 7, 0, 255⟩ blanks zeros .absent⟩

end Swatch.PaddedTriples
