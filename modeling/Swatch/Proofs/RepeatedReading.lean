import Mathlib
import Swatch.Proofs.CursorReading

/-! A reader that is asked again and again, whatever came of the earlier calls. A
failure may leave it in the middle of an expansion, and what stands there is
then read as a text of its own. The reader never goes back. A success leaves
nothing to find, and only at a `%` that opens nothing is the reader stuck. -/
namespace Swatch.RepeatedReading
open CursorReading TemplateReading

variable {text rest unread : Text} {r : TemplateReader}

inductive Call where
  | scan
  | parse

inductive Answer where
  | spans (found : List Span)
  | template (found : Template)

namespace Call

def answer (r : TemplateReader) : Call → Except FormatError Answer
  | scan => r.scan.1.map .spans
  | parse => r.parse.1.map .template

/-- The reader after a call. -/
def next (r : TemplateReader) : Call → TemplateReader
  | scan => r.scan.2
  | parse => r.parse.2

/-- The answer to a call that is made for a text of its own. -/
def about (text : Text) : Call → Except FormatError Answer
  | scan => (Template.scan text).map .spans
  | parse => (Template.parse text).map .template

/-- The answer to a call that finds these spans. -/
def report (text : Text) (found : List Span) : Call → Answer
  | scan => .spans found
  | parse => .template ⟨found.map Span.node, text⟩

end Call

/-- The reader after some calls. -/
def after (r : TemplateReader) (calls : List Call) : TemplateReader := calls.foldl Call.next r

def shifted (distance : Nat) (span : Span) : Span :=
  ⟨span.node, distance + span.start, distance + span.stop⟩

/-- An answer about the end of a text from a position on, as one about the whole
text. -/
def aboutWhole (text : Text) (position : Nat) (answer : Except FormatError Answer) :
    Except FormatError Answer :=
  match answer with
  | .ok (.spans found) => .ok (.spans (found.map (shifted position)))
  | .ok (.template found) => .ok (.template ⟨found.nodes, text⟩)
  | .error e => .error (.malformed text (position + e.position))

/-- A `%` that begins neither a doubled `%` nor an expansion. -/
def Stuck (text : Text) (position : Nat) : Prop :=
  text[position]? = some '%' ∧ ∀ c ∈ text[position + 1]?, c ≠ '%' ∧ c ≠ '\x7b'

/-- A reader of the text with its two places in order. -/
structure Within (text : Text) (r : TemplateReader) : Prop where
  sameText : r.text = text
  started : r.start ≤ r.position
  inside : r.position ≤ text.length

/-- What holds of a reader of a text, and of the calls that are made on it from
now on. -/
structure Orderly (text : Text) (r : TemplateReader) : Prop extends Within text r where
  byPositions : CursorReading.scan r = .ok r.scan
  parsedByPositions : CursorReading.parse r = .ok r.parse
  asFresh : ∀ call : Call, call.answer r =
    aboutWhole text r.position (call.answer (fresh (text.drop r.position)))
  ofRest : ∀ call : Call, call.answer (fresh (text.drop r.position)) =
    call.about (text.drop r.position)
  forward : ∀ call : Call, r.position ≤ (call.next r).position
  finished : ∀ (call : Call) answer, call.answer r = .ok answer →
    (call.next r).position = text.length ∧
    ∀ calls (later : Call), after (call.next r) calls = call.next r ∧
      later.answer (call.next r) = .ok (later.report text [])
  stayed : ∀ (call : Call) e, call.answer r = .error e → (call.next r).position = r.position →
    Stuck text r.position ∧
    ∀ calls (later : Call), after (call.next r) calls = call.next r ∧
      later.answer (call.next r) = .error (.malformed text r.position)

theorem suffix_of_padding_error (failed : PadSpelling.read rest = .error unread) :
    unread <:+ rest := by
  unfold PadSpelling.read at failed
  split at failed
  · cases failed
  · rename_i fill digits
    dsimp only at failed
    split at failed
    · cases failed
    · split at failed
      · cases failed
      · cases failed
        exact (List.drop_suffix _ digits).trans (List.suffix_cons fill digits)

theorem suffix_of_channel_error (failed : Element.readChannel rest = .error unread) :
    unread <:+ rest := by
  unfold Element.readChannel at failed
  split at failed
  · cases failed
    exact List.suffix_rfl
  · split at failed
    · cases failed
    · cases failed
      exact List.suffix_cons _ _
    · cases failed
      exact List.suffix_rfl

theorem suffix_of_body_error (failed : Element.readBody rest = .error unread) :
    unread <:+ rest := by
  unfold Element.readBody at failed
  cases padRead : PadSpelling.read rest with
  | error left =>
    rw [padRead] at failed
    cases failed
    exact suffix_of_padding_error padRead
  | ok found =>
    obtain ⟨pad, afterPad⟩ := found
    cases channelRead : Element.readChannel (Element.readBase afterPad).2 with
    | error left =>
      simp only [padRead, channelRead, bind, Except.bind, Except.error.injEq] at failed
      subst failed
      have front := (suffix_of_readBase afterPad).trans (suffix_of_readPadding padRead)
      exact (suffix_of_channel_error channelRead).trans front
    | ok found => simp [padRead, channelRead, bind, Except.bind, pure, Except.pure] at failed

/-- An element that cannot be completed begins with a `%`. All of it is left
unread if nothing is opened by that, and otherwise no more than its body. -/
theorem error_shape {first : Char} (failed : Element.read first rest = .error unread) :
    first = '%' ∧ ((unread = first :: rest ∧ ∀ c ∈ rest.head?, c ≠ '%' ∧ c ≠ '\x7b') ∨
      ∃ body, rest = '\x7b' :: body ∧ unread <:+ body) := by
  by_cases percent : first = '%'
  · subst percent
    refine ⟨rfl, ?_⟩
    cases rest with
    | nil =>
      cases failed
      exact .inl ⟨rfl, by simp⟩
    | cons c rest =>
      by_cases doubled : c = '%'
      · subst doubled
        cases failed
      · by_cases brace : c = '\x7b'
        · subst brace
          exact .inr ⟨rest, rfl, suffix_of_body_error failed⟩
        · have left : Element.read '%' (c :: rest) = .error ('%' :: c :: rest) := by
            simp [Element.read, doubled, brace]
          cases left.symm.trans failed
          exact .inl ⟨rfl, by simp [doubled, brace]⟩
  · simp [Element.read, percent] at failed

theorem suffix_of_error {first : Char} (failed : Element.read first rest = .error unread) :
    unread <:+ first :: rest := by
  obtain ⟨_, ⟨rfl, _⟩ | ⟨body, rfl, ends⟩⟩ := error_shape failed
  · exact List.suffix_rfl
  · exact (ends.trans (List.suffix_cons _ body)).trans (List.suffix_cons first _)

theorem stuck_before_iff {first : Char} (ends : (first :: rest) <:+ text) :
    Stuck text (before text (first :: rest)).position ↔
      first = '%' ∧ ∀ c ∈ rest.head?, c ≠ '%' ∧ c ≠ '\x7b' := by
  have here : text[(before text (first :: rest)).position]? = some first := peek_before ends 0
  have next : text[(before text (first :: rest)).position + 1]? = rest.head? := by
    rw [List.head?_eq_getElem?]
    exact peek_before ends 1
  rw [Stuck, here, next, Option.some.injEq]

/-- Where nothing is opened, a call fails at once and leaves the whole rest
unread. -/
theorem scan_stuck (start : Nat) (ends : rest <:+ text)
    (stuck : Stuck text (before text rest).position) :
    (standing text rest start).scan =
      (.error (.malformed text (before text rest).position),
        standing text rest (before text rest).position) := by
  cases rest with
  | nil =>
    have nothing : text[(before text []).position]? = none := peek_before ends 0
    rw [Stuck, nothing] at stuck
    cases stuck.1
  | cons first rest =>
    obtain ⟨rfl, opened⟩ := (stuck_before_iff ends).mp stuck
    apply scan_of_error start ends
    cases rest with
    | nil => rfl
    | cons c rest =>
      obtain ⟨single, unbraced⟩ := opened c rfl
      simp [Element.read, single, unbraced]

/-- A call moves a reader on, element by element, and leaves it in its text. -/
theorem standing_moves (start : Nat) (ends : rest <:+ text)
    (started : start ≤ (before text rest).position) :
    let last := (standing text rest start).scan.2
    Within text last ∧ (before text rest).position ≤ last.position := by
  fun_induction Reading.of rest generalizing start with
  | case1 =>
    rw [scan_at_end]
    exact ⟨⟨rfl, started, Nat.sub_le _ _⟩, le_rfl⟩
  | case2 first rest unread read =>
    rw [scan_of_error start ends read]
    have shorter := (suffix_of_error read).length_le
    have moves : (before text (first :: rest)).position ≤ (before text unread).position :=
      Nat.sub_le_sub_left shorter text.length
    exact ⟨⟨rfl, moves, Nat.sub_le _ _⟩, moves⟩
  | case3 first rest e after read further ih =>
    have shorter := (Element.length_lt_of_read read).le
    have moves : (before text (first :: rest)).position ≤ (before text after).position :=
      Nat.sub_le_sub_left shorter text.length
    obtain ⟨within, forward⟩ := ih _ ((suffix_of_read read).trans ends) moves
    rw [scan_of_ok start ends read]
    exact ⟨within, moves.trans forward⟩

/-- A call that fails where it began is stuck there. -/
theorem stuck_of_stays {start : Nat} {e : FormatError} (ends : rest <:+ text)
    (failed : (standing text rest start).scan.1 = .error e)
    (stays : (standing text rest start).scan.2.position = (before text rest).position) :
    Stuck text (before text rest).position := by
  cases rest with
  | nil =>
    rw [scan_at_end] at failed
    cases failed
  | cons first rest =>
    have fits := ends.length_le
    cases read : Element.read first rest with
    | error unread =>
      rw [scan_of_error start ends read] at stays
      obtain ⟨percent, ⟨_, opened⟩ | ⟨body, rfl, unreadEnds⟩⟩ := error_shape read
      · exact (stuck_before_iff ends).mpr ⟨percent, opened⟩
      · have shorter := unreadEnds.length_le
        simp only [standing, before, List.length_cons] at stays fits
        omega
    | ok found =>
      obtain ⟨e, after⟩ := found
      have shorter := Element.length_lt_of_read read
      have moves : (before text (first :: rest)).position < (before text after).position := by
        simp only [before]
        omega
      obtain ⟨_, forward⟩ := standing_moves _ ((suffix_of_read read).trans ends) moves.le
      rw [scan_of_ok start ends read] at stays
      exact absurd stays (moves.trans_le forward).ne'

theorem after_unchanged (unchanged : ∀ call : Call, call.next r = r) (calls : List Call) :
    after r calls = r := by
  induction calls with
  | nil => rfl
  | cons call calls ih => rw [after, List.foldl_cons, unchanged call, ← after, ih]

theorem next_eq (call : Call) (r : TemplateReader) : call.next r = r.scan.2 := by
  cases call <;> rfl

theorem answer_eq (call : Call) (r : TemplateReader) :
    call.answer r = r.scan.1.map (call.report r.text) := by
  cases call with
  | scan => rfl
  | parse =>
    simp only [Call.answer, TemplateReader.parse]
    cases r.scan.1 <;> rfl

/-- A reader that was not asked yet answers as the scan, or the parse, of its
text. -/
theorem answer_fresh (call : Call) (text : Text) : call.answer (fresh text) = call.about text := by
  cases call with
  | scan => rw [Call.answer, scan_fresh, Call.about]
  | parse => rw [Call.answer, parse_fresh, Call.about]

theorem spans_shifted (distance position : Nat) (elements : List Element) :
    Element.spans (distance + position) elements =
      (Element.spans position elements).map (shifted distance) := by
  induction elements generalizing position with
  | nil => rfl
  | cons e elements ih =>
    rw [Element.spans, Element.spans, List.map_cons, Nat.add_assoc, ih]
    rfl

theorem tail_length_le {b : Breakdown} (broken : (Reading.of text).breakdown = some b) :
    b.tail.length ≤ text.length := by
  have split := congrArg List.length (leads_whole (leads_of_reading text))
  simp only [Leftover, broken, Option.elim, List.length_append] at split
  omega

/-- A call finds what a fresh reader finds in the rest of the text, at positions
that are as much greater as the text in front of it is long. -/
theorem scan_about_rest (inside : r.position ≤ r.text.length) :
    r.scan.1 = match (fresh (r.text.drop r.position)).scan.1 with
      | .ok found => .ok (found.map (shifted r.position))
      | .error e => .error (.malformed r.text (r.position + e.position)) := by
  have spans := spans_shifted r.position 0 (Reading.of (r.text.drop r.position)).elements
  simp only [TemplateReader.scan, fresh, List.drop_zero]
  cases broken : (Reading.of (r.text.drop r.position)).breakdown with
  | none => exact congrArg Except.ok spans
  | some b =>
    have short := tail_length_le broken
    have length : r.position + (r.text.drop r.position).length = r.text.length := by
      rw [List.length_drop]
      omega
    simp only [FormatError.position, ← Nat.add_sub_assoc short, length]

theorem answer_about_rest (call : Call) (inside : r.position ≤ r.text.length) :
    call.answer r =
      aboutWhole r.text r.position (call.answer (fresh (r.text.drop r.position))) := by
  rw [answer_eq, answer_eq, scan_about_rest inside]
  cases (fresh (r.text.drop r.position)).scan.1 with
  | error e => rfl
  | ok found => cases call <;> simp [Except.map, aboutWhole, Call.report, shifted, fresh]

theorem scan_of_answer_ok {call : Call} {answer : Answer} (answered : call.answer r = .ok answer) :
    ∃ found, r.scan.1 = .ok found := by
  rw [answer_eq] at answered
  cases scanned : r.scan.1 with
  | ok found => exact ⟨found, rfl⟩
  | error e => simp [scanned, Except.map] at answered

theorem scan_of_answer_error {call : Call} {e : FormatError} (failed : call.answer r = .error e) :
    r.scan.1 = .error e := by
  rw [answer_eq] at failed
  cases scanned : r.scan.1 with
  | ok found => simp [scanned, Except.map] at failed
  | error e => simpa [scanned, Except.map] using failed

theorem end_of_scan_ok {found : List Span} (inside : r.position ≤ r.text.length)
    (scanned : r.scan.1 = .ok found) : ∃ start, r.scan.2 = standing r.text [] start := by
  unfold TemplateReader.scan at scanned ⊢
  cases broken : (Reading.of (r.text.drop r.position)).breakdown with
  | none => simp [broken, standing, before, Nat.max_eq_right inside]
  | some b => simp [broken] at scanned

theorem standing_of_within (within : Within text r) :
    ∃ rest, rest <:+ text ∧ r = standing text rest r.start := by
  obtain ⟨rfl, _, inside⟩ := within
  exact ⟨_, List.drop_suffix r.position r.text, eq_standing inside⟩

theorem within_next (within : Within text r) (call : Call) :
    Within text (call.next r) ∧ r.position ≤ (call.next r).position := by
  obtain ⟨rest, ends, stands⟩ := standing_of_within within
  have started := within.started
  rw [stands] at started
  rw [next_eq, stands]
  exact standing_moves r.start ends started

theorem within_after (within : Within text r) (calls : List Call) :
    Within text (after r calls) := by
  induction calls generalizing r with
  | nil => exact within
  | cons call calls ih => exact ih (within_next within call).1

theorem finished_of_ok {call : Call} {answer : Answer} (within : Within text r)
    (answered : call.answer r = .ok answer) : ∃ start, call.next r = standing text [] start := by
  obtain ⟨rfl, _, inside⟩ := within
  obtain ⟨found, scanned⟩ := scan_of_answer_ok answered
  rw [next_eq]
  exact end_of_scan_ok inside scanned

theorem stuck_of_error {call : Call} {e : FormatError} (within : Within text r)
    (failed : call.answer r = .error e) (stays : (call.next r).position = r.position) :
    Stuck text r.position := by
  obtain ⟨rest, ends, stands⟩ := standing_of_within within
  have scanned := scan_of_answer_error failed
  rw [next_eq] at stays
  rw [stands] at scanned stays ⊢
  exact stuck_of_stays ends scanned stays

theorem run_of_stuck (within : Within text r) (stuck : Stuck text r.position) (call : Call) :
    call.answer r = .error (.malformed text r.position) ∧
      call.next r = ⟨text, r.position, r.position⟩ := by
  obtain ⟨rest, ends, stands⟩ := standing_of_within within
  rw [next_eq, answer_eq]
  rw [stands] at stuck ⊢
  rw [scan_stuck r.start ends stuck]
  exact ⟨rfl, rfl⟩

/-- Places in order are all that the calls to come depend on. -/
theorem orderly_of_within (within : Within text r) : Orderly text r := by
  have whole := within.sameText
  have inside : r.position ≤ r.text.length := whole ▸ within.inside
  refine ⟨within, scan_eq inside, parse_eq inside, fun call => ?_,
    fun call => answer_fresh call _, fun call => (within_next within call).2, ?_, ?_⟩
  · rw [← whole]
    exact answer_about_rest call inside
  · intro call answer answered
    obtain ⟨start, last⟩ := finished_of_ok within answered
    have again := scan_at_end text start
    rw [last]
    refine ⟨rfl, fun calls later => ⟨?_, ?_⟩⟩
    · apply after_unchanged
      intro call
      rw [next_eq, again]
    · rw [answer_eq, again]
      rfl
  · intro call e failed stays
    have stuck := stuck_of_error within failed stays
    have here := (run_of_stuck within stuck call).2
    have again := run_of_stuck (r := ⟨text, r.position, r.position⟩)
      ⟨rfl, le_rfl, within.inside⟩ stuck
    rw [here]
    exact ⟨stuck, fun calls later =>
      ⟨after_unchanged (fun call => (again call).2) calls, (again later).1⟩⟩

theorem within_fresh (text : Text) : Within text (fresh text) := ⟨rfl, le_rfl, Nat.zero_le _⟩

/-- Whatever calls were made on a reader of a text, its places are in order, and
a further call answers as one on a fresh reader of the rest of the text, which is
the scan or the parse of that rest. It does not go back. After a success there is
nothing left to find, and a failure that does not move on stays where it is for
ever. -/
theorem calls_orderly (text : Text) (calls : List Call) :
    Orderly text (after (fresh text) calls) :=
  orderly_of_within (within_after (within_fresh text) calls)

/-- A width that is too great, in front of a `%` that opens nothing. -/
def jammed : Text := "%\x7b-99999r\x7dx%".toList

/-- The first call stops behind five digits of the width. What is left of the
expansion is a run to the next call, which is stuck behind it for ever. -/
theorem calls_orderly_jammed :
    after (fresh jammed) [.scan] = ⟨jammed, 8, 0⟩ ∧
    Call.parse.answer ⟨jammed, 8, 0⟩ =
      aboutWhole jammed 8 (Call.parse.answer (fresh "r\x7dx%".toList)) ∧
    after (fresh jammed) [.scan, .parse] = ⟨jammed, 11, 11⟩ ∧ Stuck jammed 11 ∧
    ∀ calls (later : Call), after ⟨jammed, 11, 11⟩ calls = ⟨jammed, 11, 11⟩ ∧
      later.answer ⟨jammed, 11, 11⟩ = .error (.malformed jammed 11) := by
  have first : after (fresh jammed) [.scan] = ⟨jammed, 8, 0⟩ := by cbv
  have second : after (fresh jammed) [.scan, .parse] = ⟨jammed, 11, 11⟩ := by cbv
  have third : Call.scan.next ⟨jammed, 11, 11⟩ = ⟨jammed, 11, 11⟩ := by cbv
  have failed : Call.scan.answer ⟨jammed, 11, 11⟩ = .error (.malformed jammed 11) := by cbv
  have inside := calls_orderly jammed [.scan]
  have atEnd := calls_orderly jammed [.scan, .parse]
  rw [first] at inside
  rw [second] at atEnd
  obtain ⟨stuck, later⟩ := atEnd.stayed .scan _ failed (by rw [third])
  rw [third] at later
  exact ⟨first, inside.asFresh .parse, second, stuck, later⟩

end Swatch.RepeatedReading
