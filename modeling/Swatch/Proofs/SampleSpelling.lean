import Swatch.Proofs.HexNumber
import Swatch.Proofs.TemplateGrammar
import Swatch.Proofs.TextCutting
import Swatch.Sample.Reading

/-! The spellings of colors, stated on their characters without the reader. A
text has at most one of three forms, and spells one sample if it has one. The
reader finds exactly that sample. It refuses every other text as it was given,
except for a triple of decimal numbers with too many digits. -/
namespace Swatch.SampleSpelling
open HexNumber NumeralDigits TemplateGrammar TextCutting

variable {text value digits : Text} {s t : Sample}

/-- The ways to write a color: channel by channel in decimal, as a packed number,
or digit by digit in hexadecimal. -/
inductive Form where
  | triple
  | packed
  | digits
  deriving DecidableEq

/-- Three parts between two commas, which are decimal digits but for the blanks
around them. -/
structure DecimalTriple (value first second third : Text) : Prop where
  whole : value = first ++ ',' :: (second ++ ',' :: third)
  single : ∀ part ∈ [first, second, third], ',' ∉ part
  given : ∀ part ∈ [first, second, third], part.trim ≠ []
  decimal : ∀ part ∈ [first, second, third], ∀ c ∈ part.trim, '0' ≤ c ∧ c ≤ '9'

/-- A decimal triple with a part that is too long to be turned into a number. -/
def Oversized (value : Text) : Prop :=
  ∃ first second third, DecimalTriple value first second third ∧
    ∃ part ∈ [first, second, third], 4300 < part.trim.length

/-- The spellings in hexadecimal digits alone: three that each stand for a byte
of two equal digits, six for the visible channels, or eight for all of them. -/
inductive SpellsDigits : Text → Sample → Prop where
  | short {r g b : Char} {s : Sample} : s.alpha = 255 → PairsDenote r r g g b b s →
      SpellsDigits [r, g, b] s
  | full {r r' g g' b b' : Char} {s : Sample} : s.alpha = 255 → PairsDenote r r' g g' b b' s →
      SpellsDigits [r, r', g, g', b, b'] s
  | withAlpha {a a' r r' g g' b b' : Char} {s : Sample} : Denotes [a, a'] s.alpha.toNat →
      PairsDenote r r' g g' b b' s → SpellsDigits [a, a', r, r', g, g', b, b'] s

/-- The texts without outer blanks that spell a sample in a form. -/
inductive Spells : Form → Text → Sample → Prop where
  | triple {value first second third : Text} {s : Sample} :
      DecimalTriple value first second third →
      (∀ part ∈ [first, second, third], part.trim.length ≤ 4300) → s.alpha = 255 →
      number first.trim = s.red.toNat → number second.trim = s.green.toNat →
      number third.trim = s.blue.toNat → Spells .triple value s
  | packed {x : Char} {digits : Text} {s : Sample} : x = 'x' ∨ x = 'X' → 1 ≤ digits.length →
      digits.length ≤ 8 → Denotes digits s.packed → Spells .packed ('0' :: x :: digits) s
  | digits {mark digits : Text} {s : Sample} : mark = [] ∨ mark = ['#'] →
      SpellsDigits digits s → Spells .digits (mark ++ digits) s

theorem isDecimalPart_iff {part : Text} : Sample.isDecimalPart part = true ↔
    part ≠ [] ∧ ∀ c ∈ part, '0' ≤ c ∧ c ≤ '9' := by
  simp [Sample.isDecimalPart, isDecimal_iff]

theorem isBlank_of_decimal {c : Char} (decimal : '0' ≤ c ∧ c ≤ '9') : isBlank c = false := by
  have range : 0x30 ≤ c.toNat ∧ c.toNat ≤ 0x39 := decimal
  simp [isBlank]
  omega

/-- There are no blanks in decimal digits. -/
theorem trimmed_of_decimal {part : Text} (decimal : Sample.isDecimalPart part = true) :
    Trimmed part :=
  trimmed_of_forall fun c member => isBlank_of_decimal ((isDecimalPart_iff.mp decimal).2 c member)

theorem trim_of_digits {part : Text} (decimal : Sample.isDecimalPart part = true) :
    part.trim = part :=
  trim_of_trimmed (trimmed_of_decimal decimal)

theorem tripleParts?_cut_iff {x y z : Text} : Sample.tripleParts? value = some (x, y, z) ↔
    (value.pieces ',').map Text.trim = [x, y, z] ∧ [x, y, z].all Sample.isDecimalPart = true := by
  constructor
  · intro found
    unfold Sample.tripleParts? at found
    split at found
    · rename_i r g b cut
      split at found
      · rename_i decimal
        cases found
        exact ⟨cut, decimal⟩
      · cases found
    · cases found
  · rintro ⟨cut, decimal⟩
    rw [Sample.tripleParts?, cut]
    exact if_pos decimal

theorem tripleParts?_eq_some_iff {x y z : Text} : Sample.tripleParts? value = some (x, y, z) ↔
    ∃ first second third, DecimalTriple value first second third ∧
      first.trim = x ∧ second.trim = y ∧ third.trim = z := by
  rw [tripleParts?_cut_iff]
  constructor
  · rintro ⟨cut, decimal⟩
    simp only [List.map_eq_cons_iff, List.map_eq_nil_iff] at cut
    obtain ⟨first, _, pieces, rfl, second, _, rfl, rfl, third, _, rfl, rfl, rfl⟩ := cut
    obtain ⟨whole, single⟩ := pieces_eq_three_iff.mp pieces
    have parts : ∀ part ∈ [first, second, third], Sample.isDecimalPart part.trim = true := by
      simpa using decimal
    exact ⟨first, second, third, ⟨whole, single,
      fun part member => (isDecimalPart_iff.mp (parts part member)).1,
      fun part member => (isDecimalPart_iff.mp (parts part member)).2⟩, rfl, rfl, rfl⟩
  · rintro ⟨first, second, third, triple, rfl, rfl, rfl⟩
    have parts : ∀ part ∈ [first, second, third], Sample.isDecimalPart part.trim = true :=
      fun part member =>
        isDecimalPart_iff.mpr ⟨triple.given part member, triple.decimal part member⟩
    rw [pieces_eq_three_iff.mpr ⟨triple.whole, triple.single⟩]
    exact ⟨rfl, by simpa using parts⟩

section Triples
variable {first second third : Text}

theorem comma_mem (triple : DecimalTriple value first second third) : ',' ∈ value := by
  rw [triple.whole]
  simp

theorem readDecimal_short {part : Text} (short : part.length ≤ 4300)
    (decimal : ∀ c ∈ part, '0' ≤ c ∧ c ≤ '9') : Numeral.readDecimal part = .ok (number part) := by
  rw [Numeral.readDecimal, Numeral.digitLimit, if_pos short, decimalValue_eq_number decimal]

theorem readDecimal_long {part : Text} (long : 4300 < part.length) :
    Numeral.readDecimal part = .error ⟨part.length⟩ := by
  rw [Numeral.readDecimal, Numeral.digitLimit, if_neg (by omega)]

theorem readTriple_of_triple (triple : DecimalTriple value first second third) :
    Sample.readTriple value = (do
      let r ← Numeral.readDecimal first.trim
      let g ← Numeral.readDecimal second.trim
      let b ← Numeral.readDecimal third.trim
      if r ≤ 255 ∧ g ≤ 255 ∧ b ≤ 255 then
        return some (.solid (UInt8.ofNat r) (UInt8.ofNat g) (UInt8.ofNat b))
      else return none) := by
  rw [Sample.readTriple, tripleParts?_eq_some_iff.mpr ⟨_, _, _, triple, rfl, rfl, rfl⟩]

/-- Parts that are short enough have values, which make a sample if they fit into
bytes. -/
theorem readTriple_short (triple : DecimalTriple value first second third)
    (short : ∀ part ∈ [first, second, third], part.trim.length ≤ 4300) :
    Sample.readTriple value = .ok
      (if number first.trim ≤ 255 ∧ number second.trim ≤ 255 ∧ number third.trim ≤ 255 then
        some (.solid (UInt8.ofNat (number first.trim)) (UInt8.ofNat (number second.trim))
          (UInt8.ofNat (number third.trim)))
      else none) := by
  have read : ∀ part ∈ [first, second, third],
      Numeral.readDecimal part.trim = .ok (number part.trim) :=
    fun part member => readDecimal_short (short part member) (triple.decimal part member)
  rw [readTriple_of_triple triple, read first (by simp), read second (by simp),
    read third (by simp)]
  simp only [bind, Except.bind, pure, Except.pure]
  split <;> rfl

theorem readTriple_long (triple : DecimalTriple value first second third)
    (long : ∃ part ∈ [first, second, third], 4300 < part.trim.length) :
    ∃ e, Sample.readTriple value = .error e := by
  rw [readTriple_of_triple triple]
  cases firstRead : Numeral.readDecimal first.trim with
  | error e => exact ⟨e, rfl⟩
  | ok r =>
    cases secondRead : Numeral.readDecimal second.trim with
    | error e => exact ⟨e, rfl⟩
    | ok g =>
      cases thirdRead : Numeral.readDecimal third.trim with
      | error e => exact ⟨e, rfl⟩
      | ok b =>
        obtain ⟨part, member, long⟩ := long
        have failed := readDecimal_long long
        simp only [List.mem_cons, List.not_mem_nil, or_false] at member
        rcases member with rfl | rfl | rfl
        · cases firstRead.symm.trans failed
        · cases secondRead.symm.trans failed
        · cases thirdRead.symm.trans failed

theorem solid_ofNat {r g b : Nat} (red : r ≤ 255) (green : g ≤ 255) (blue : b ≤ 255) :
    s = .solid (UInt8.ofNat r) (UInt8.ofNat g) (UInt8.ofNat b) ↔
      s.alpha = 255 ∧ r = s.red.toNat ∧ g = s.green.toNat ∧ b = s.blue.toNat := by
  obtain ⟨alpha, red, green, blue⟩ := s
  simp only [Sample.solid, Sample.mk.injEq, ← UInt8.toNat_inj, UInt8.toNat_ofNat']
  omega

end Triples

theorem readTriple_eq_none (absent : Sample.tripleParts? value = none) :
    Sample.readTriple value = .ok none := by
  rw [Sample.readTriple, absent]

theorem readTriple_ok_iff : Sample.readTriple value = .ok (some s) ↔ Spells .triple value s := by
  constructor
  · intro read
    cases parts : Sample.tripleParts? value with
    | none =>
      rw [readTriple_eq_none parts] at read
      cases read
    | some found =>
      obtain ⟨first, second, third, triple, _⟩ := tripleParts?_eq_some_iff.mp parts
      by_cases short : ∀ part ∈ [first, second, third], part.trim.length ≤ 4300
      · rw [readTriple_short triple short] at read
        split at read
        · rename_i bounds
          obtain ⟨red, green, blue⟩ := bounds
          obtain ⟨alpha, red, green, blue⟩ :=
            (solid_ofNat red green blue).mp (Option.some.inj (Except.ok.inj read)).symm
          exact .triple triple short alpha red green blue
        · cases read
      · push Not at short
        obtain ⟨e, failed⟩ := readTriple_long triple short
        rw [failed] at read
        cases read
  · intro spells
    cases spells with
    | triple triple short alpha red green blue =>
      have redByte := s.red.toNat_lt
      have greenByte := s.green.toNat_lt
      have blueByte := s.blue.toNat_lt
      rw [readTriple_short triple short, if_pos (by omega)]
      exact congrArg (Except.ok ∘ some)
        ((solid_ofNat (by omega) (by omega) (by omega)).mpr ⟨alpha, red, green, blue⟩).symm

theorem readTriple_error_iff : (∃ e, Sample.readTriple value = .error e) ↔ Oversized value := by
  constructor
  · rintro ⟨e, failed⟩
    cases parts : Sample.tripleParts? value with
    | none =>
      rw [readTriple_eq_none parts] at failed
      cases failed
    | some found =>
      obtain ⟨first, second, third, triple, _⟩ := tripleParts?_eq_some_iff.mp parts
      refine ⟨first, second, third, triple, ?_⟩
      by_contra short
      push Not at short
      rw [readTriple_short triple short] at failed
      cases failed
  · rintro ⟨first, second, third, triple, long⟩
    exact readTriple_long triple long

theorem readPacked?_eq_some_iff : Sample.readPacked? digits = some s ↔
    1 ≤ digits.length ∧ digits.length ≤ 8 ∧ Denotes digits s.packed := by
  have some : 1 ≤ digits.length ↔ digits ≠ [] := List.length_pos_iff
  rw [Sample.readPacked?, some]
  split
  · rename_i short
    have bound : ∀ n, Denotes digits n → n < 0x100000000 := fun n denotes =>
      (denotes_lt denotes).trans_le (Nat.pow_le_pow_right (by decide) short)
    simp only [Option.map_eq_some_iff, read?_eq_some_iff]
    constructor
    · rintro ⟨n, ⟨nonempty, denotes⟩, rfl⟩
      rw [packed_ofBytes (bound n denotes)]
      exact ⟨nonempty, short, denotes⟩
    · rintro ⟨nonempty, _, denotes⟩
      exact ⟨s.packed, ⟨nonempty, denotes⟩, (ofBytes_eq_iff (packed_lt s)).mpr rfl⟩
  · simp [*]

private theorem map_solid_iff {r r' g g' b b' : Char} :
    (Numeral.read? 16 [r, r', g, g', b, b']).map (fun n => Sample.ofBytes (0xFF000000 + n)) =
      some s ↔ s.alpha = 255 ∧ PairsDenote r r' g g' b b' s := by
  have solid : s.alpha = 255 ↔ s.alpha.toNat = 255 := by simp [← UInt8.toNat_inj]
  rw [solid, ← pairsDenote_iff, Option.map_eq_some_iff]
  apply exists_congr
  intro n
  rw [read?_eq_some_iff]
  constructor
  · rintro ⟨⟨_, denotes⟩, same⟩
    have bound : n < 16 ^ 6 := denotes_lt denotes
    exact ⟨denotes, (ofBytes_eq_iff (by omega)).mp same⟩
  · rintro ⟨denotes, packed⟩
    have bound : n < 16 ^ 6 := denotes_lt denotes
    exact ⟨⟨by simp, denotes⟩, (ofBytes_eq_iff (by omega)).mpr packed⟩

theorem readHex?_eq_some_iff : Sample.readHex? digits = some s ↔ SpellsDigits digits s := by
  constructor
  · intro read
    unfold Sample.readHex? at read
    split at read
    · rename_i three
      obtain ⟨r, g, b, rfl⟩ := List.length_eq_three.mp three
      obtain ⟨alpha, pairs⟩ := map_solid_iff.mp read
      exact .short alpha pairs
    · rename_i six
      obtain ⟨r, r', g, g', b, b', rfl⟩ : ∃ r r' g g' b b', digits = [r, r', g, g', b, b'] := by
        match digits, six with
        | [r, r', g, g', b, b'], _ => exact ⟨r, r', g, g', b, b', rfl⟩
      obtain ⟨alpha, pairs⟩ := map_solid_iff.mp read
      exact .full alpha pairs
    · rename_i eight
      obtain ⟨a, a', r, r', g, g', b, b', rfl⟩ :
          ∃ a a' r r' g g' b b', digits = [a, a', r, r', g, g', b, b'] := by
        match digits, eight with
        | [a, a', r, r', g, g', b, b'], _ => exact ⟨a, a', r, r', g, g', b, b', rfl⟩
      obtain ⟨alpha, pairs⟩ := denotes_packed_iff.mp (readPacked?_eq_some_iff.mp read).2.2
      exact .withAlpha alpha pairs
    · cases read
  · intro spells
    cases spells with
    | short alpha pairs => exact map_solid_iff.mpr ⟨alpha, pairs⟩
    | full alpha pairs => exact map_solid_iff.mpr ⟨alpha, pairs⟩
    | withAlpha alpha pairs =>
      exact readPacked?_eq_some_iff.mpr
        ⟨by simp, by simp, denotes_packed_iff.mpr ⟨alpha, pairs⟩⟩

theorem digit_of_denotes {n : Nat} (denotes : Denotes digits n) :
    ∀ c ∈ digits, ∃ d, Digit c d := by
  induction denotes with
  | nil => simp
  | snoc denotes digit ih =>
    intro c member
    rcases List.mem_append.mp member with front | last
    · exact ih c front
    · exact ⟨_, List.mem_singleton.mp last ▸ digit⟩

theorem digit_of_spellsDigits (spells : SpellsDigits digits s) :
    ∀ c ∈ digits, ∃ d, Digit c d := by
  have pairs : ∀ {r r' g g' b b' : Char}, PairsDenote r r' g g' b b' s →
      ∀ c ∈ [r, r', g, g', b, b'], ∃ d, Digit c d := by
    intro r r' g g' b b' pairs
    change ∀ c ∈ [r, r'] ++ ([g, g'] ++ [b, b']), ∃ d, Digit c d
    rw [List.forall_mem_append, List.forall_mem_append]
    exact ⟨digit_of_denotes pairs.red, digit_of_denotes pairs.green, digit_of_denotes pairs.blue⟩
  cases spells with
  | short _ short => simpa using pairs short
  | full _ full => exact pairs full
  | withAlpha alpha rest =>
    exact List.forall_mem_append.mpr ⟨digit_of_denotes alpha, pairs rest⟩

private theorem not_digit {c : Char} (other : Numeral.digit? 16 c = none) : ¬∃ d, Digit c d := by
  rintro ⟨d, digit⟩
  rw [digit?_eq_some_iff.mpr digit] at other
  cases other

theorem readDigits?_eq_some_iff : Sample.readDigits? value = some s ↔
    Spells .packed value s ∨ Spells .digits value s := by
  constructor
  · intro read
    unfold Sample.readDigits? at read
    split at read
    · obtain ⟨some, short, denotes⟩ := readPacked?_eq_some_iff.mp read
      exact .inl (.packed (.inl rfl) some short denotes)
    · obtain ⟨some, short, denotes⟩ := readPacked?_eq_some_iff.mp read
      exact .inl (.packed (.inr rfl) some short denotes)
    · exact .inr (@Spells.digits ['#'] _ _ (.inr rfl) (readHex?_eq_some_iff.mp read))
    · exact .inr (@Spells.digits [] _ _ (.inl rfl) (readHex?_eq_some_iff.mp read))
  · rintro (spells | spells)
    · cases spells with
      | packed x some short denotes =>
        rcases x with rfl | rfl <;> exact readPacked?_eq_some_iff.mpr ⟨some, short, denotes⟩
    · cases spells with
      | digits mark spells =>
        rcases mark with rfl | rfl
        · have digits := digit_of_spellsDigits spells
          rw [List.nil_append]
          unfold Sample.readDigits?
          split
          · exact absurd (digits 'x' (by simp)) (not_digit (by decide))
          · exact absurd (digits 'X' (by simp)) (not_digit (by decide))
          · exact absurd (digits '#' (by simp)) (not_digit (by decide))
          · exact readHex?_eq_some_iff.mpr spells
        · exact readHex?_eq_some_iff.mpr spells

theorem comma_of_triple (spells : Spells .triple value s) : ',' ∈ value := by
  cases spells with
  | triple triple => exact comma_mem triple

theorem chars_of_packed (spells : Spells .packed value s) :
    ∀ c ∈ value, c = 'x' ∨ c = 'X' ∨ ∃ d, Digit c d := by
  cases spells with
  | packed x _ _ denotes =>
    have zero : ∃ d, Digit '0' d := ⟨0, .decimal (by decide) rfl⟩
    intro c member
    rcases List.mem_cons.mp member with rfl | member
    · exact .inr (.inr zero)
    · rcases List.mem_cons.mp member with rfl | member
      · exact x.imp_right .inl
      · exact .inr (.inr (digit_of_denotes denotes c member))

theorem chars_of_digits (spells : Spells .digits value s) :
    ∀ c ∈ value, c = '#' ∨ ∃ d, Digit c d := by
  cases spells with
  | digits mark spells =>
    intro c member
    rcases List.mem_append.mp member with front | member
    · rcases mark with rfl | rfl
      · cases front
      · exact .inl (List.mem_singleton.mp front)
    · exact .inr (digit_of_spellsDigits spells c member)

theorem comma_notMem (spells : Spells .packed value s ∨ Spells .digits value s) : ',' ∉ value := by
  have comma : ¬∃ d, Digit ',' d := not_digit (by decide)
  intro member
  rcases spells with spells | spells
  · simpa [comma] using chars_of_packed spells ',' member
  · simpa [comma] using chars_of_digits spells ',' member

theorem isBlank_of_digit {c : Char} {d : Nat} (digit : Digit c d) : isBlank c = false := by
  have zero : '0'.toNat = 0x30 := rfl
  have lower : 'a'.toNat = 0x61 := rfl
  have upper : 'A'.toNat = 0x41 := rfl
  cases digit <;> simp [isBlank] <;> omega

/-- There are no blanks in hexadecimal digits. -/
theorem trimmed_of_digits (spells : Spells .digits value s) : Trimmed value := by
  apply trimmed_of_forall
  intro c member
  rcases chars_of_digits spells c member with rfl | ⟨d, digit⟩
  · rfl
  · exact isBlank_of_digit digit

theorem trimmed_of_packed (spells : Spells .packed value s) : Trimmed value := by
  apply trimmed_of_forall
  intro c member
  rcases chars_of_packed spells c member with rfl | rfl | ⟨d, digit⟩
  · rfl
  · rfl
  · exact isBlank_of_digit digit

private theorem packed_apart (packed : Spells .packed value s) : ¬Spells .digits value t := by
  intro digits
  cases packed with
  | packed x =>
    have second := chars_of_digits digits _ (List.mem_cons_of_mem _ List.mem_cons_self)
    have lower : ¬∃ d, Digit 'x' d := not_digit (by decide)
    have upper : ¬∃ d, Digit 'X' d := not_digit (by decide)
    rcases x with rfl | rfl
    · simp [lower] at second
    · simp [upper] at second

/-- No text has two forms, and none spells two samples. -/
theorem spells_unique {form other : Form} (spells : Spells form value s)
    (otherSpells : Spells other value t) : form = other ∧ s = t := by
  have same {s t : Sample} (first : Spells .packed value s ∨ Spells .digits value s)
      (second : Spells .packed value t ∨ Spells .digits value t) : s = t :=
    Option.some.inj ((readDigits?_eq_some_iff.mpr first).symm.trans
      (readDigits?_eq_some_iff.mpr second))
  cases form <;> cases other
  case triple.triple =>
    have read := (readTriple_ok_iff.mpr spells).symm.trans (readTriple_ok_iff.mpr otherSpells)
    exact ⟨rfl, Option.some.inj (Except.ok.inj read)⟩
  case triple.packed => exact absurd (comma_of_triple spells) (comma_notMem (.inl otherSpells))
  case triple.digits => exact absurd (comma_of_triple spells) (comma_notMem (.inr otherSpells))
  case packed.triple => exact absurd (comma_of_triple otherSpells) (comma_notMem (.inl spells))
  case digits.triple => exact absurd (comma_of_triple otherSpells) (comma_notMem (.inr spells))
  case packed.packed => exact ⟨rfl, same (.inl spells) (.inl otherSpells)⟩
  case packed.digits => exact absurd otherSpells (packed_apart spells)
  case digits.packed => exact absurd spells (packed_apart otherSpells)
  case digits.digits => exact ⟨rfl, same (.inr spells) (.inr otherSpells)⟩

/-- What a text without outer blanks is read as, `none` standing for no color. -/
def readValue (value : Text) : Except Numeral.TooLong (Option Sample) :=
  if value.contains ',' then Sample.readTriple value else .ok (Sample.readDigits? value)

/-- The outer blanks of a text only count where it is refused. -/
theorem read_eq (text : Text) : Sample.read text =
    match readValue text.trim with
    | .ok (some s) => .ok s
    | .ok none => .error (.invalid text)
    | .error e => .error (.tooLong e) := by
  by_cases comma : text.trim.contains ',' = true
  · simp only [Sample.read, readValue, if_pos comma]
    cases Sample.readTriple text.trim with
    | error e => rfl
    | ok found => cases found <;> rfl
  · simp only [Sample.read, readValue, if_neg comma]
    cases Sample.readDigits? text.trim <;> rfl

theorem readValue_ok_iff : readValue value = .ok (some s) ↔ ∃ form, Spells form value s := by
  unfold readValue
  split
  · rename_i comma
    have comma : ',' ∈ value := by simpa using comma
    rw [readTriple_ok_iff]
    constructor
    · exact fun spells => ⟨.triple, spells⟩
    · rintro ⟨form, spells⟩
      cases form with
      | triple => exact spells
      | packed => exact absurd comma (comma_notMem (.inl spells))
      | digits => exact absurd comma (comma_notMem (.inr spells))
  · rename_i plain
    have plain : ',' ∉ value := by simpa using plain
    rw [Except.ok.injEq, readDigits?_eq_some_iff]
    constructor
    · rintro (spells | spells)
      · exact ⟨.packed, spells⟩
      · exact ⟨.digits, spells⟩
    · rintro ⟨form, spells⟩
      cases form with
      | triple => exact absurd (comma_of_triple spells) plain
      | packed => exact .inl spells
      | digits => exact .inr spells

theorem readValue_error_iff : (∃ e, readValue value = .error e) ↔ Oversized value := by
  unfold readValue
  split
  · exact readTriple_error_iff
  · rename_i plain
    have plain : ',' ∉ value := by simpa using plain
    simp only [reduceCtorEq, exists_false, false_iff]
    rintro ⟨first, second, third, triple, _⟩
    exact plain (comma_mem triple)

theorem read_ok_iff : Sample.read text = .ok s ↔ ∃ form, Spells form text.trim s := by
  rw [← readValue_ok_iff, read_eq]
  split <;> simp [*]

/-- What is spelled without outer blanks is read also with blanks around it. -/
theorem read_between {before after : Text} {form : Form} (blankBefore : Blank before)
    (blankAfter : Blank after) (trimmed : Trimmed value) (spells : Spells form value s) :
    Sample.read (before ++ value ++ after) = .ok s := by
  rw [read_ok_iff, trim_surrounded value blankBefore blankAfter, trim_of_trimmed trimmed]
  exact ⟨form, spells⟩

theorem read_of_spells {form : Form} (trimmed : Trimmed value) (spells : Spells form value s) :
    Sample.read value = .ok s := by
  have read := read_between blank_nil blank_nil trimmed spells
  rwa [List.nil_append, List.append_nil] at read

theorem read_tooLong_iff : (∃ e, Sample.read text = .error (.tooLong e)) ↔ Oversized text.trim := by
  rw [← readValue_error_iff, read_eq]
  split <;> simp [*]

/-- A text is refused as it was given, unless it is too long. -/
theorem read_invalid_iff {other : Text} : Sample.read text = .error (.invalid other) ↔
    other = text ∧ (¬∃ form s, Spells form text.trim s) ∧ ¬Oversized text.trim := by
  rw [← readValue_error_iff]
  have spelled : (∃ form s, Spells form text.trim s) ↔ ∃ s, readValue text.trim = .ok (some s) := by
    rw [exists_comm]
    exact exists_congr fun s => readValue_ok_iff.symm
  rw [spelled, read_eq]
  split <;> simp [*, eq_comm]

end Swatch.SampleSpelling
