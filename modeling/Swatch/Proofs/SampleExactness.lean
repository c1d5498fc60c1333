import Swatch.Proofs.SampleSpelling

/-! The reader of colors gives exactly the samples that texts spell. The checks
on channel values and on packed numbers stay out of its way: reading that runs
into them, digit by digit and bit by bit, never sees one of them fail. -/
namespace Swatch.SampleExactness
open HexNumber SampleSpelling

variable {digits : Text}

/-- Why a guarded reading gives no sample: the text is refused, or what was read
from it does not pass a check. -/
inductive Refusal where
  | color (e : ColorError)
  | sample (e : SampleError)

/-- Three numbers as the visible channels of a sample, if they pass the checks on
channel values. -/
def guardedSolid (red green blue : Nat) : Except Refusal (Option Sample) :=
  let channel (n : Nat) : Value := .scalar (.int n)
  ((Sample.ofValues (channel 255) (channel red) (channel green) (channel blue)).map
    some).mapError .sample

/-- A number as a packed sample, if it passes the check on its range. -/
def guardedPacked (n : Nat) : Except Refusal (Option Sample) :=
  ((Sample.ofPacked n).map some).mapError .sample

def guardedTriple (value : Text) : Except Refusal (Option Sample) :=
  match Sample.tripleParts? value with
  | none => .ok none
  | some (r, g, b) => do
    let r ← (Numeral.readDecimal r).mapError (Refusal.color ∘ .tooLong)
    let g ← (Numeral.readDecimal g).mapError (Refusal.color ∘ .tooLong)
    let b ← (Numeral.readDecimal b).mapError (Refusal.color ∘ .tooLong)
    if r ≤ 255 ∧ g ≤ 255 ∧ b ≤ 255 then guardedSolid r g b else return none

def guardedHex : Text → Except Refusal (Option Sample)
  | [r, g, b] =>
    match Numeral.read? 16 [r, r], Numeral.read? 16 [g, g], Numeral.read? 16 [b, b] with
    | some red, some green, some blue => guardedSolid red green blue
    | _, _, _ => .ok none
  | digits =>
    match digits.length with
    | 6 => (Numeral.read? 16 digits).elim (.ok none) fun n => guardedPacked (0xFF000000 ||| n)
    | 8 => (Numeral.read? 16 digits).elim (.ok none) guardedPacked
    | _ => .ok none

def guardedDigits : Text → Except Refusal (Option Sample)
  | '0' :: 'x' :: digits => guardedShort digits
  | '0' :: 'X' :: digits => guardedShort digits
  | '#' :: digits => guardedHex digits
  | digits => guardedHex digits
where
  guardedShort (digits : Text) : Except Refusal (Option Sample) :=
    if digits.length ≤ 8 then (Numeral.read? 16 digits).elim (.ok none) guardedPacked
    else .ok none

/-- Reading in which every sample is made with its checks: from values of its
channels, or from a packed number whose bits are put together. -/
def guarded (text : Text) : Except Refusal Sample := do
  let value := text.trim
  let found ← if value.contains ',' then guardedTriple value else guardedDigits value
  found.elim (.error (.color (.invalid text))) .ok

theorem channelOf_byte (letter : Char) {n : Nat} (byte : n ≤ 255) :
    Sample.channelOf letter (.scalar (.int n)) = .ok (UInt8.ofNat n) := by
  have range : 0 ≤ (n : Int) ∧ (n : Int) ≤ 255 := by omega
  simp [Sample.channelOf, Sample.byte?, range]

theorem guardedSolid_eq {red green blue : Nat} (redByte : red ≤ 255) (greenByte : green ≤ 255)
    (blueByte : blue ≤ 255) : guardedSolid red green blue =
      .ok (some (.solid (UInt8.ofNat red) (UInt8.ofNat green) (UInt8.ofNat blue))) := by
  rw [guardedSolid, Sample.ofValues, channelOf_byte _ (Nat.le_refl 255), channelOf_byte _ redByte,
    channelOf_byte _ greenByte, channelOf_byte _ blueByte]
  rfl

theorem guardedPacked_eq {n : Nat} (bound : n < 0x100000000) :
    guardedPacked n = .ok (some (Sample.ofBytes n)) := by
  have range : 0 ≤ (n : Int) ∧ (n : Int) < 0x100000000 := by omega
  rw [guardedPacked, Sample.ofPacked, if_pos range, Int.toNat_natCast]
  rfl

theorem guardedTriple_eq (value : Text) : guardedTriple value =
    (Sample.readTriple value).mapError (Refusal.color ∘ .tooLong) := by
  unfold guardedTriple Sample.readTriple
  cases Sample.tripleParts? value with
  | none => rfl
  | some parts =>
    obtain ⟨first, second, third⟩ := parts
    dsimp only
    cases Numeral.readDecimal first with
    | error e => rfl
    | ok r =>
      cases Numeral.readDecimal second with
      | error e => rfl
      | ok g =>
        cases Numeral.readDecimal third with
        | error e => rfl
        | ok b =>
          simp only [bind, Except.bind, Except.mapError]
          split
          · rename_i bytes
            exact guardedSolid_eq bytes.1 bytes.2.1 bytes.2.2
          · rfl

/-- The bits of an alpha channel are set without a carry. -/
theorem or_alpha {n : Nat} (bound : n < 2 ^ 24) : 0xFF000000 ||| n = 0xFF000000 + n :=
  (Nat.two_pow_add_eq_or_of_lt bound 0xFF).symm

theorem read?_lt {n : Nat} (read : Numeral.read? 16 digits = some n) : n < 16 ^ digits.length :=
  denotes_lt (read?_eq_some_iff.mp read).2

private theorem denotes_byte {c c' : Char} {n : Nat} (read : Numeral.read? 16 [c, c'] = some n) :
    n < 256 ∧ Denotes [c, c'] (UInt8.ofNat n).toNat := by
  have byte : n < 256 := read?_lt read
  rw [UInt8.toNat_ofNat', Nat.mod_eq_of_lt byte]
  exact ⟨byte, (read?_eq_some_iff.mp read).2⟩

private theorem guardedHex_short (r g b : Char) :
    guardedHex [r, g, b] = .ok (Sample.readHex? [r, g, b]) := by
  rw [guardedHex]
  split
  · rename_i redRead greenRead blueRead
    obtain ⟨redByte, red⟩ := denotes_byte redRead
    obtain ⟨greenByte, green⟩ := denotes_byte greenRead
    obtain ⟨blueByte, blue⟩ := denotes_byte blueRead
    rw [guardedSolid_eq (by omega) (by omega) (by omega)]
    exact congrArg Except.ok (readHex?_eq_some_iff.mpr (.short rfl ⟨red, green, blue⟩)).symm
  · rename_i unread
    refine congrArg Except.ok (Option.eq_none_iff_forall_ne_some.mpr fun s read => ?_).symm
    cases readHex?_eq_some_iff.mp read with
    | short _ pairs =>
      exact unread _ _ _ (read?_eq_some_iff.mpr ⟨by simp, pairs.red⟩)
        (read?_eq_some_iff.mpr ⟨by simp, pairs.green⟩)
        (read?_eq_some_iff.mpr ⟨by simp, pairs.blue⟩)

private theorem guardedPacked_elim {found : Option Nat} (f : Nat → Nat)
    (small : ∀ n, found = some n → f n < 0x100000000) :
    (found.elim (.ok none) fun n => guardedPacked (f n)) =
      .ok (found.map fun n => Sample.ofBytes (f n)) := by
  cases found with
  | none => rfl
  | some n => rw [Option.elim_some, guardedPacked_eq (small n rfl), Option.map_some]

theorem guardedShort_eq (digits : Text) :
    guardedDigits.guardedShort digits = .ok (Sample.readPacked? digits) := by
  rw [guardedDigits.guardedShort, Sample.readPacked?]
  split
  · rename_i short
    apply guardedPacked_elim id
    intro n read
    exact (read?_lt read).trans_le (Nat.pow_le_pow_right (by decide) short)
  · rfl

theorem guardedHex_eq (digits : Text) : guardedHex digits = .ok (Sample.readHex? digits) := by
  unfold guardedHex
  split
  · exact guardedHex_short _ _ _
  · rename_i longer
    have notThree : digits.length ≠ 3 := by
      intro three
      obtain ⟨r, g, b, same⟩ := List.length_eq_three.mp three
      exact longer r g b same
    split
    · rename_i six
      have bound : ∀ n, Numeral.read? 16 digits = some n → n < 2 ^ 24 := by
        intro n read
        have small := read?_lt read
        rwa [six] at small
      have small : ∀ n, Numeral.read? 16 digits = some n → 0xFF000000 ||| n < 0x100000000 := by
        intro n read
        have below := bound n read
        rw [or_alpha below]
        omega
      rw [guardedPacked_elim _ small]
      simp only [Sample.readHex?, six]
      exact congrArg Except.ok (Option.map_congr fun n read => by rw [or_alpha (bound n read)])
    · rename_i eight
      simp only [Sample.readHex?, eight]
      rw [← guardedShort_eq, guardedDigits.guardedShort, if_pos (by omega)]
    · rename_i notSix notEight
      rw [Sample.readHex?]
      split
      · contradiction
      · contradiction
      · contradiction
      · rfl

theorem guardedDigits_eq (value : Text) : guardedDigits value = .ok (Sample.readDigits? value) := by
  unfold guardedDigits
  split
  · exact guardedShort_eq _
  · exact guardedShort_eq _
  · exact guardedHex_eq _
  · rw [guardedHex_eq, Sample.readDigits?] <;> assumption

/-- No check of a sample ever fails on what a text is read as. -/
theorem guarded_eq (text : Text) : guarded text = (Sample.read text).mapError .color := by
  rw [read_eq]
  by_cases comma : text.trim.contains ',' = true
  · simp only [guarded, readValue, if_pos comma, guardedTriple_eq]
    cases Sample.readTriple text.trim with
    | error e => rfl
    | ok found => cases found <;> rfl
  · simp only [guarded, readValue, if_neg comma, guardedDigits_eq]
    cases Sample.readDigits? text.trim <;> rfl

/-- A text is read as a sample exactly if it spells that sample, but for its
outer blanks, in one of three forms that exclude each other. Every other text is
refused as an invalid color that names it with its blanks, unless it is a triple
of decimal digits of which there are too many. The checks that samples have to
pass change nothing. -/
theorem read_exact (text : Text) :
    (∀ s, Sample.read text = .ok s ↔ ∃ form, Spells form text.trim s) ∧
    (∀ form other s t, Spells form text.trim s → Spells other text.trim t →
      form = other ∧ s = t) ∧
    ((∃ e, Sample.read text = .error (.tooLong e)) ↔ Oversized text.trim) ∧
    (∀ given, Sample.read text = .error (.invalid given) ↔
      given = text ∧ (¬∃ form s, Spells form text.trim s) ∧ ¬Oversized text.trim) ∧
    guarded text = (Sample.read text).mapError .color :=
  ⟨fun _ => read_ok_iff, fun _ _ _ _ => spells_unique, read_tooLong_iff, fun _ => read_invalid_iff,
    guarded_eq text⟩

/-- A triple with blanks of several kinds around the whole and around a part that
has zeros in front. -/
theorem read_exact_blank_triple :
    let text : Text := " 7,\u00a0008\t,255\u2003\n".toList
    Spells .triple text.trim (.solid 7 8 255) ∧ Sample.read text = .ok (.solid 7 8 255) ∧
    guarded text = .ok (.solid 7 8 255) ∧
    ∀ form s, Spells form text.trim s → form = .triple ∧ s = .solid 7 8 255 := by
  intro text
  have trimmed : text.trim = "7,\u00a0008\t,255".toList := by decide
  have parts : ∀ part ∈ ([['7'], "\u00a0008\t".toList, "255".toList] : List Text),
      Sample.isDecimalPart part.trim = true := by decide
  have triple : DecimalTriple text.trim ['7'] "\u00a0008\t".toList "255".toList := by
    rw [trimmed]
    exact ⟨rfl, by decide, fun part member => (isDecimalPart_iff.mp (parts part member)).1,
      fun part member => (isDecimalPart_iff.mp (parts part member)).2⟩
  have spells : Spells .triple text.trim (.solid 7 8 255) :=
    .triple triple (by decide) rfl (by decide) (by decide) (by decide)
  obtain ⟨found, unique, _, _, checked⟩ := read_exact text
  have read : Sample.read text = .ok (.solid 7 8 255) := (found _).mpr ⟨.triple, spells⟩
  refine ⟨spells, read, by rw [checked, read]; rfl, ?_⟩
  intro form s other
  exact unique _ _ _ _ other spells

end Swatch.SampleExactness
