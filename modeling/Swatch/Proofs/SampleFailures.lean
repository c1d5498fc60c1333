import Swatch.Proofs.SampleExactness

/-! What can go wrong while a text is read as a color. Here every step that has a
way to fail is taken with it: a conversion of digits, the taking of three values out
of a list, a check of channels or of a packed number. The tests in front of such a
step let nothing through on which it fails, with one exception. No test counts the
digits of a decimal part, and the conversion of one that has more than 4300 fails in
its own way. -/
namespace Swatch.SampleFailures
open HexNumber TemplateGrammar TextCutting SampleSpelling SampleExactness

variable {α : Type} {text value digits part : Text} {parts : List Text}

/-- Why a reading ends without a sample: the text is refused or does not pass a
check, a text is no numeral of the radix in which it is converted, or a list does not
have the three values that are taken out of it. -/
inductive Failure where
  | refusal (e : SampleExactness.Refusal)
  | literal (radix : Nat) (digits : Text)
  | count (found : Nat)

/-- The failure of a conversion that is given too many digits. -/
def Failure.tooLong (part : Text) : Failure := .refusal (.color (.tooLong ⟨part.length⟩))

/-- A decimal part as a number, unless it is none or has too many digits. -/
def decimalNumber (part : Text) : Except Failure Nat :=
  if Sample.isDecimalPart part then
    (Numeral.readDecimal part).mapError fun e => .refusal (.color (.tooLong e))
  else .error (.literal 10 part)

def hexNumber (digits : Text) : Except Failure Nat :=
  (Numeral.read? 16 digits).elim (.error (.literal 16 digits)) .ok

/-- The values of a list that has three. -/
def three : List α → Except Failure (α × α × α)
  | [first, second, third] => .ok (first, second, third)
  | values => .error (.count values.length)

def attemptTriple (value : Text) : Except Failure (Option Sample) :=
  let parts := (value.pieces ',').map Text.trim
  if parts.length = 3 ∧ parts.all Sample.isDecimalPart then do
    let numbers ← parts.mapM decimalNumber
    if numbers.all (· ≤ 255) then
      let (red, green, blue) ← three numbers
      (guardedSolid red green blue).mapError .refusal
    else return none
  else return none

def attemptPacked (digits : Text) : Except Failure (Option Sample) :=
  if digits ≠ [] ∧ digits.length ≤ 8 ∧ digits.all Numeral.isHex then do
    (guardedPacked (← hexNumber digits)).mapError .refusal
  else return none

def attemptHex (digits : Text) : Except Failure (Option Sample) :=
  if digits ≠ [] ∧ digits.all Numeral.isHex then
    if digits.length = 3 then do
      let numbers ← digits.mapM fun d => hexNumber [d, d]
      let (red, green, blue) ← three numbers
      (guardedSolid red green blue).mapError .refusal
    else if digits.length = 6 then do
      (guardedPacked (0xFF000000 ||| (← hexNumber digits))).mapError .refusal
    else if digits.length = 8 then do
      (guardedPacked (← hexNumber digits)).mapError .refusal
    else return none
  else return none

def attemptDigits : Text → Except Failure (Option Sample)
  | '0' :: 'x' :: digits => attemptPacked digits
  | '0' :: 'X' :: digits => attemptPacked digits
  | '#' :: digits => attemptHex digits
  | digits => attemptHex digits

/-- Reading step by step, with all the ways in which a step can fail. -/
def attempt (text : Text) : Except Failure Sample := do
  let value := text.trim
  let found ← if value.contains ',' then attemptTriple value else attemptDigits value
  found.elim (.error (.refusal (.color (.invalid text)))) .ok

/-- A text that is either read as a sample or refused as the invalid color it is. -/
def Handled (text : Text) : Prop :=
  (∃ s, Sample.read text = .ok s) ∨ Sample.read text = .error (.invalid text)

/-- The first of the three parts of a triple, without its blanks, that is too long to
be turned into a number. -/
def FirstOversized (value part : Text) : Prop :=
  ∃ first second third, DecimalTriple value first second third ∧
    [first.trim, second.trim, third.trim].find? (4300 < ·.length) = some part

theorem read?_isSome : (Numeral.read? 16 digits).isSome = true ↔
    digits ≠ [] ∧ digits.all Numeral.isHex = true := by
  have valued : (digits.mapM (Numeral.digit? 16)).isSome = digits.all Numeral.isHex := by
    induction digits with
    | nil => rfl
    | cons c rest ih =>
      rw [List.mapM_cons, List.all_cons, Numeral.isHex, ← ih]
      cases Numeral.digit? 16 c <;> cases rest.mapM (Numeral.digit? 16) <;> rfl
  rw [Numeral.read?]
  split
  · rename_i empty
    simp [List.isEmpty_iff.mp empty]
  · rename_i nonempty
    rw [Option.isSome_map, valued]
    exact (and_iff_right (by simpa using nonempty)).symm

/-- Digits that pass the test are converted, and others denote no number. -/
theorem hexNumber_spec (digits : Text) :
    (∃ n, Numeral.read? 16 digits = some n ∧ hexNumber digits = pure n ∧
      digits ≠ [] ∧ digits.all Numeral.isHex = true) ∨
    Numeral.read? 16 digits = none ∧ ¬(digits ≠ [] ∧ digits.all Numeral.isHex = true) := by
  cases read : Numeral.read? 16 digits with
  | some n =>
    refine .inl ⟨n, rfl, ?_, read?_isSome.mp (Option.isSome_of_eq_some read)⟩
    rw [hexNumber, read]
    rfl
  | none =>
    refine .inr ⟨rfl, ?_⟩
    rw [← read?_isSome, read]
    exact Bool.false_ne_true

theorem attemptPacked_eq (digits : Text) :
    attemptPacked digits = (guardedDigits.guardedShort digits).mapError .refusal := by
  unfold attemptPacked guardedDigits.guardedShort
  rcases hexNumber_spec digits with ⟨n, read, converted, nonempty, hex⟩ | ⟨read, untested⟩
  · rw [read, converted, pure_bind, Option.elim_some]
    by_cases short : digits.length ≤ 8
    · rw [if_pos short, if_pos ⟨nonempty, short, hex⟩]
    · rw [if_neg short, if_neg fun passed => short passed.2.1]
      rfl
  · rw [read, if_neg fun passed => untested ⟨passed.1, passed.2.2⟩, Option.elim_none, ite_self]
    rfl

/-- Three digits are converted one by one, each of them doubled. -/
theorem attemptHex_short {r g b : Char} (hex : [r, g, b].all Numeral.isHex = true) :
    attemptHex [r, g, b] = (guardedHex [r, g, b]).mapError .refusal := by
  have doubled : ∀ d ∈ [r, g, b], ∃ n, Numeral.read? 16 [d, d] = some n ∧
      hexNumber [d, d] = pure n := by
    intro d member
    have digit : Numeral.isHex d = true := List.all_eq_true.mp hex d member
    rcases hexNumber_spec [d, d] with ⟨n, read, converted, _⟩ | ⟨_, untested⟩
    · exact ⟨n, read, converted⟩
    · exact absurd ⟨List.cons_ne_nil _ _, by simp [digit]⟩ untested
  obtain ⟨red, redRead, redNumber⟩ := doubled r (by simp)
  obtain ⟨green, greenRead, greenNumber⟩ := doubled g (by simp)
  obtain ⟨blue, blueRead, blueNumber⟩ := doubled b (by simp)
  have numbers : [r, g, b].mapM (fun d => hexNumber [d, d]) = pure [red, green, blue] := by
    simp [List.mapM_cons, redNumber, greenNumber, blueNumber]
  rw [attemptHex, if_pos ⟨List.cons_ne_nil _ _, hex⟩, guardedHex, redRead, greenRead, blueRead]
  simp only [List.length_cons, List.length_nil, numbers, pure_bind]
  rfl

theorem readHex?_eq_none (untested : ¬(digits ≠ [] ∧ digits.all Numeral.isHex = true)) :
    Sample.readHex? digits = none := by
  apply Option.eq_none_iff_forall_ne_some.mpr
  intro s read
  have spells := readHex?_eq_some_iff.mp read
  apply untested
  constructor
  · cases spells <;> exact List.cons_ne_nil _ _
  · apply List.all_eq_true.mpr
    intro c member
    obtain ⟨d, digit⟩ := digit_of_spellsDigits spells c member
    rw [Numeral.isHex, digit?_eq_some_iff.mpr digit, Option.isSome_some]

theorem guardedHex_of_length {n : Nat} (read : Numeral.read? 16 digits = some n)
    (longer : digits.length ≠ 3) : guardedHex digits =
      if digits.length = 6 then guardedPacked (0xFF000000 ||| n)
      else if digits.length = 8 then guardedPacked n else .ok none := by
  unfold guardedHex
  split
  · exact absurd rfl longer
  · split
    · rename_i six
      rw [if_pos six, read, Option.elim_some]
    · rename_i eight
      rw [if_neg (by omega), if_pos eight, read, Option.elim_some]
    · rename_i notSix notEight
      rw [if_neg notSix, if_neg notEight]

theorem attemptHex_eq (digits : Text) :
    attemptHex digits = (guardedHex digits).mapError .refusal := by
  rcases hexNumber_spec digits with ⟨n, read, converted, nonempty, hex⟩ | ⟨_, untested⟩
  · by_cases short : digits.length = 3
    · obtain ⟨r, g, b, rfl⟩ := List.length_eq_three.mp short
      exact attemptHex_short hex
    · rw [attemptHex, if_pos ⟨nonempty, hex⟩, if_neg short, converted, pure_bind, pure_bind,
        guardedHex_of_length read short]
      split
      · rfl
      · split <;> rfl
  · rw [attemptHex, if_neg untested, guardedHex_eq, readHex?_eq_none untested]
    rfl

theorem attemptDigits_eq (value : Text) :
    attemptDigits value = (guardedDigits value).mapError .refusal := by
  unfold attemptDigits
  split
  · exact attemptPacked_eq _
  · exact attemptPacked_eq _
  · exact attemptHex_eq _
  · rw [attemptHex_eq, guardedDigits] <;> assumption

theorem decimalNumber_eq (decimal : Sample.isDecimalPart part = true) :
    decimalNumber part =
      (Numeral.readDecimal part).mapError fun e => .refusal (.color (.tooLong e)) :=
  if_pos decimal

theorem attemptTriple_eq (value : Text) :
    attemptTriple value = (guardedTriple value).mapError .refusal := by
  unfold attemptTriple guardedTriple
  dsimp only
  cases found : Sample.tripleParts? value with
  | none =>
    rw [if_neg]
    · rfl
    · rintro ⟨three, decimal⟩
      obtain ⟨x, y, z, cut⟩ := List.length_eq_three.mp three
      rw [tripleParts?_cut_iff.mpr ⟨cut, cut ▸ decimal⟩] at found
      cases found
  | some parts =>
    obtain ⟨x, y, z⟩ := parts
    obtain ⟨cut, decimal⟩ := tripleParts?_cut_iff.mp found
    have each := List.all_eq_true.mp decimal
    rw [cut, if_pos ⟨rfl, decimal⟩]
    simp only [List.mapM_cons, List.mapM_nil, decimalNumber_eq (each x (by simp)),
      decimalNumber_eq (each y (by simp)), decimalNumber_eq (each z (by simp))]
    cases Numeral.readDecimal x with
    | error e => rfl
    | ok red =>
      cases Numeral.readDecimal y with
      | error e => rfl
      | ok green =>
        cases Numeral.readDecimal z with
        | error e => rfl
        | ok blue =>
          have bytes : [red, green, blue].all (· ≤ 255) = true ↔
              red ≤ 255 ∧ green ≤ 255 ∧ blue ≤ 255 := by simp
          simp only [Except.mapError, bind, Except.bind, pure, Except.pure, three, bytes]
          split <;> rfl

/-- Step by step, a text is read as it is at once. -/
theorem attempt_eq (text : Text) :
    attempt text = (Sample.read text).mapError fun e => .refusal (.color e) := by
  have guardedRead : attempt text = (guarded text).mapError .refusal := by
    by_cases comma : text.trim.contains ',' = true
    · simp only [attempt, guarded, if_pos comma, attemptTriple_eq]
      cases guardedTriple text.trim with
      | error e => rfl
      | ok found => cases found <;> rfl
    · simp only [attempt, guarded, if_neg comma, attemptDigits_eq]
      cases guardedDigits text.trim with
      | error e => rfl
      | ok found => cases found <;> rfl
  rw [guardedRead, guarded_eq]
  cases Sample.read text <;> rfl

/-- Decimal parts are converted one after the other, up to the first that is too
long. -/
theorem mapM_decimalNumber (decimal : ∀ part ∈ parts, Sample.isDecimalPart part = true) :
    parts.mapM decimalNumber =
      match parts.find? (4300 < ·.length) with
      | some part => .error (.tooLong part)
      | none => .ok (parts.map number) := by
  induction parts with
  | nil => rfl
  | cons part rest ih =>
    obtain ⟨first, others⟩ := List.forall_mem_cons.mp decimal
    rw [List.mapM_cons, decimalNumber_eq first, ih others]
    by_cases long : 4300 < part.length
    · rw [readDecimal_long long, List.find?_cons_of_pos (by simpa using long)]
      rfl
    · rw [readDecimal_short (by omega) (isDecimalPart_iff.mp first).2,
        List.find?_cons_of_neg (by simpa using long)]
      cases rest.find? (4300 < ·.length) <;> rfl

theorem find?_long_iff {first second third : Text} :
    (∃ part, [first.trim, second.trim, third.trim].find? (4300 < ·.length) = some part) ↔
      ∃ part ∈ [first, second, third], 4300 < part.trim.length := by
  rw [← Option.isSome_iff_exists, List.find?_isSome]
  simp

theorem oversized_iff : Oversized value ↔ ∃ part, FirstOversized value part := by
  constructor
  · rintro ⟨first, second, third, triple, long⟩
    obtain ⟨part, found⟩ := find?_long_iff.mpr long
    exact ⟨part, first, second, third, triple, found⟩
  · rintro ⟨part, first, second, third, triple, found⟩
    exact ⟨first, second, third, triple, find?_long_iff.mp ⟨part, found⟩⟩

theorem attemptTriple_tooLong (oversized : FirstOversized value part) :
    attemptTriple value = .error (.tooLong part) := by
  obtain ⟨first, second, third, triple, found⟩ := oversized
  obtain ⟨cut, decimal⟩ := tripleParts?_cut_iff.mp
    (tripleParts?_eq_some_iff.mpr ⟨first, second, third, triple, rfl, rfl, rfl⟩)
  have failed := mapM_decimalNumber (List.all_eq_true.mp decimal)
  rw [found] at failed
  rw [attemptTriple, cut, if_pos ⟨rfl, decimal⟩, failed]
  rfl

/-- The conversion that fails is the first one that can. -/
theorem read_tooLong (oversized : FirstOversized text.trim part) :
    Sample.read text = .error (.tooLong ⟨part.length⟩) := by
  obtain ⟨first, second, third, triple, _⟩ := id oversized
  have comma : text.trim.contains ',' = true := by simpa using comma_mem triple
  have failed : attempt text = .error (.tooLong part) := by
    rw [attempt]
    simp only [if_pos comma, attemptTriple_tooLong oversized]
    rfl
  rw [attempt_eq] at failed
  cases read : Sample.read text with
  | ok s =>
    rw [read] at failed
    cases failed
  | error e =>
    rw [read] at failed
    cases failed
    rfl

theorem read_error_iff {e : ColorError} : Sample.read text = .error e ↔
    (e = .invalid text ∧ (¬∃ form s, Spells form text.trim s) ∧ ¬Oversized text.trim) ∨
      ∃ part, FirstOversized text.trim part ∧ e = .tooLong ⟨part.length⟩ := by
  constructor
  · intro failed
    cases e with
    | invalid given =>
      obtain ⟨rfl, refused⟩ := read_invalid_iff.mp failed
      exact .inl ⟨rfl, refused⟩
    | tooLong found =>
      obtain ⟨part, oversized⟩ := oversized_iff.mp (read_tooLong_iff.mp ⟨found, failed⟩)
      exact .inr ⟨part, oversized, Except.error.inj (failed.symm.trans (read_tooLong oversized))⟩
  · rintro (⟨rfl, refused⟩ | ⟨part, oversized, rfl⟩)
    · exact read_invalid_iff.mpr ⟨rfl, refused⟩
    · exact read_tooLong oversized

theorem handled_iff : Handled text ↔ ¬Oversized text.trim := by
  rw [← read_tooLong_iff, Handled]
  cases read : Sample.read text with
  | ok s => simp
  | error e =>
    cases e with
    | invalid given =>
      obtain ⟨rfl, _⟩ := read_invalid_iff.mp read
      simp
    | tooLong found => simp

theorem length_trim_le (text : Text) : text.trim.length ≤ text.length := by
  rw [trim_eq]
  exact (List.rdropWhile_prefix _ _).length_le.trans (List.dropWhile_suffix _).length_le

/-- Two more parts of a digit at least and two commas stand beside a part that is too
long. -/
theorem length_of_oversized (oversized : Oversized value) : 4305 ≤ value.length := by
  obtain ⟨first, second, third, triple, part, member, long⟩ := oversized
  have given : ∀ part ∈ [first, second, third], 1 ≤ part.length := by
    intro part member
    exact (List.length_pos_iff.mpr (triple.given part member)).trans_le (length_trim_le part)
  have longer := long.trans_le (length_trim_le part)
  simp only [List.forall_mem_cons] at given
  rw [triple.whole]
  simp only [List.length_append, List.length_cons]
  simp only [List.mem_cons, List.not_mem_nil, or_false] at member
  rcases member with rfl | rfl | rfl <;> omega

section Digits
variable {first second third : Text}

theorem isDecimalPart_replicate {n : Nat} {c : Char} (decimal : '0' ≤ c ∧ c ≤ '9') :
    Sample.isDecimalPart (List.replicate (n + 1) c) = true := by
  apply isDecimalPart_iff.mpr
  constructor
  · simp
  · intro d member
    rwa [List.eq_of_mem_replicate member]

/-- Digits between two commas are a triple, without blanks around it. -/
theorem decimalTriple_of_digits
    (decimal : ∀ part ∈ [first, second, third], Sample.isDecimalPart part = true) :
    DecimalTriple (Text.trim (first ++ ',' :: (second ++ ',' :: third))) first second third := by
  have digits : ∀ part ∈ [first, second, third], ∀ c ∈ part, '0' ≤ c ∧ c ≤ '9' :=
    fun part member => (isDecimalPart_iff.mp (decimal part member)).2
  constructor
  · apply trim_of_trimmed
    apply trimmed_of_forall
    intro c member
    have kinds : c = ',' ∨ ∃ part ∈ [first, second, third], c ∈ part := by
      simp at member ⊢
      tauto
    rcases kinds with rfl | ⟨part, given, member⟩
    · rfl
    · exact isBlank_of_decimal (digits part given c member)
  · intro part member comma
    exact absurd (digits part member ',' comma) (by decide)
  · intro part member
    rw [trim_of_digits (decimal part member)]
    exact (isDecimalPart_iff.mp (decimal part member)).1
  · intro part member
    rw [trim_of_digits (decimal part member)]
    exact digits part member

theorem firstOversized_of_digits
    (decimal : ∀ part ∈ [first, second, third], Sample.isDecimalPart part = true)
    (found : [first, second, third].find? (4300 < ·.length) = some part) :
    FirstOversized (Text.trim (first ++ ',' :: (second ++ ',' :: third))) part := by
  refine ⟨first, second, third, decimalTriple_of_digits decimal, ?_⟩
  rwa [trim_of_digits (decimal first (by simp)), trim_of_digits (decimal second (by simp)),
    trim_of_digits (decimal third (by simp))]

end Digits

/-- Reading takes every text for a sample or refuses it as the invalid color that it
is, unless it is a triple with a part of more than 4300 digits. Then the conversion of
the first such part fails, with a failure of its own. No other step that can fail does,
and texts of fewer than 4305 characters are never that long. -/
theorem failures_exact (text : Text) :
    (attempt text = (Sample.read text).mapError fun e => .refusal (.color e)) ∧
    (∀ e, Sample.read text = .error e ↔
      (e = .invalid text ∧ (¬∃ form s, Spells form text.trim s) ∧ ¬Oversized text.trim) ∨
        ∃ part, FirstOversized text.trim part ∧ e = .tooLong ⟨part.length⟩) ∧
    (Handled text ↔ ¬Oversized text.trim) ∧
    (text.length < 4305 → Handled text) := by
  refine ⟨attempt_eq text, fun _ => read_error_iff, handled_iff, ?_⟩
  intro short
  apply handled_iff.mpr
  intro oversized
  have long := (length_of_oversized oversized).trans (length_trim_le text)
  omega

/-- The second of two parts that are too long is not converted any more. -/
theorem failures_exact_two_long :
    let zeros : Text := List.replicate 4301 '0'
    let text : Text := ['7'] ++ ',' :: (zeros ++ ',' :: List.replicate 5000 '9')
    Sample.read text = .error (.tooLong ⟨4301⟩) ∧ attempt text = .error (.tooLong zeros) ∧
      ¬Handled text ∧ Handled "7,300,0x1".toList := by
  intro zeros text
  have decimal : ∀ part ∈ [['7'], zeros, List.replicate 5000 '9'],
      Sample.isDecimalPart part = true := by
    simp only [List.forall_mem_cons]
    exact ⟨by decide, isDecimalPart_replicate (by decide), isDecimalPart_replicate (by decide),
      nofun⟩
  have oversized : FirstOversized text.trim zeros := by
    apply firstOversized_of_digits decimal
    rw [List.find?_cons_of_neg (by decide), List.find?_cons_of_pos]
    exact decide_eq_true (by rw [List.length_replicate]; decide)
  obtain ⟨stepwise, failed, handled, _⟩ := failures_exact text
  have read : Sample.read text = .error (.tooLong ⟨4301⟩) :=
    (failed _).mpr (.inr ⟨zeros, oversized, by rw [List.length_replicate]⟩)
  refine ⟨read, ?_, ?_, ?_⟩
  · rw [stepwise, read]
    rw [Failure.tooLong, List.length_replicate]
    rfl
  · rw [handled, not_not]
    exact oversized_iff.mpr ⟨zeros, oversized⟩
  · exact (failures_exact _).2.2.2 (by decide)

/-- Three numbers of which one has too many digits are neither read as a sample nor
refused as an invalid color. -/
theorem long_part_escapes :
    let text : Text := ['1'] ++ ',' :: (['2'] ++ ',' :: List.replicate 4301 '3')
    ¬((∃ s, Sample.read text = .ok s) ∨ Sample.read text = .error (.invalid text)) := by
  intro text
  have decimal : ∀ part ∈ [['1'], ['2'], List.replicate 4301 '3'],
      Sample.isDecimalPart part = true := by
    simp only [List.forall_mem_cons]
    exact ⟨by decide, by decide, isDecimalPart_replicate (by decide), nofun⟩
  have oversized : FirstOversized text.trim (List.replicate 4301 '3') := by
    apply firstOversized_of_digits decimal
    rw [List.find?_cons_of_neg (by decide), List.find?_cons_of_neg (by decide),
      List.find?_cons_of_pos]
    exact decide_eq_true (by rw [List.length_replicate]; decide)
  rw [read_tooLong oversized]
  rintro (⟨s, read⟩ | refused)
  · cases read
  · cases refused

end Swatch.SampleFailures
