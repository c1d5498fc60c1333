import Swatch.Proofs.NumeralDigits
import Swatch.Proofs.TemplateReading
import Swatch.Sample.Channel

/-! Reading by positions. A cursor looks ahead in the whole text, moves on behind
what it has matched, and goes back to where an optional part began that does not
match. Wherever it stands, what it reads and where it stops is decided by the
text behind it alone, as for the reader that takes that text apart. What it asks
for on its way, be it a character, a number or a padding, is never refused. -/
namespace Swatch.CursorReading
open NumeralDigits TemplateReading

variable {text rest : Text}

/-- A place in a text from which it is read on. -/
structure Cursor where
  text : Text
  position : Nat
  deriving DecidableEq

namespace Cursor

def peek (c : Cursor) (offset : Nat) : Option Char := c.text[c.position + offset]?

def moved (c : Cursor) (n : Nat) : Cursor := ⟨c.text, c.position + n⟩

/-- The characters from a cursor up to a position. -/
def slice (c : Cursor) (stop : Nat) : Text := (c.text.drop c.position).take (stop - c.position)

end Cursor

/-- What is asked for on the way and could be refused: a character by its index,
the number of some digits, and a padding. -/
inductive Refusal where
  | index (position : Nat)
  | numeral (digits : Text)
  | padding (e : PaddingError)
  deriving DecidableEq

/-- Why an element is given up. That it cannot be completed is a fault of the text;
a refusal would be none. -/
inductive Halt where
  | failed (stopped : Cursor)
  | refused (refusal : Refusal)
  deriving DecidableEq

/-- The outcome of an attempt to match: a match, nothing to match, or the end of
the element that is being read. All of them may have moved the cursor. -/
inductive Attempt (α : Type) where
  | matched (value : α) (after : Cursor)
  | unmatched (stopped : Cursor)
  | halted (halt : Halt)

/-- An optional part. The cursor goes back if there is none. -/
def optional {α : Type} (rule : Cursor → Attempt α) (c : Cursor) :
    Except Halt (Option α × Cursor) :=
  match rule c with
  | .matched value after => .ok (some value, after)
  | .unmatched _ => .ok (none, c)
  | .halted halt => .error halt

/-- The character at a cursor, which is refused behind the end. -/
def character (c : Cursor) : Except Refusal Char :=
  (c.text[c.position]?).elim (.error (.index c.position)) .ok

/-- The cursor behind the digits at a cursor, of which there are at most so
many. -/
def digitsEnd : Nat → Cursor → Cursor
  | 0, c => c
  | room + 1, c =>
    match c.peek 0 with
    | some digit => if Numeral.isDecimal digit then digitsEnd room (c.moved 1) else c
    | none => c

/-- The padding with a fill and a width, of which the digits end at a cursor. -/
def paddingOf (fill : Char) (digits : Text) (stop : Cursor) : Attempt Padding :=
  match Numeral.read? 10 digits with
  | none => .halted (.refused (.numeral digits))
  | some width =>
    if greatestPadWidth < width then .halted (.failed stop)
    else match Padding.make [fill] width with
      | .ok padding => .matched padding stop
      | .error e => .halted (.refused (.padding e))

def padding (c : Cursor) : Attempt Padding :=
  match c.peek 0, c.peek 1 with
  | some fill, some digit =>
    if Numeral.isDecimal digit then
      let stop := digitsEnd 5 (c.moved 1)
      paddingOf fill ((c.moved 1).slice stop.position) stop
    else .unmatched c
  | _, _ => .unmatched c

def base (c : Cursor) : Attempt Base :=
  match (c.peek 0).bind Base.ofLetter? with
  | some found => .matched found (c.moved 1)
  | none => .unmatched c

/-- The channel at a cursor and the brace behind it. That a text selects no channel
is found out by trying, and makes the element fail. -/
def channel (c : Cursor) : Except Halt (Channel × Cursor) :=
  match Channel.select (c.peek 0).toList with
  | .error _ => .error (.failed c)
  | .ok found =>
    if (c.moved 1).peek 0 = some '\x7d' then .ok (found, c.moved 2)
    else .error (.failed (c.moved 1))

/-- The element at a cursor that stands on a `%`. -/
def expansion (c : Cursor) : Except Halt (Node × Cursor) :=
  if c.peek 1 = some '%' then .ok (.literal ['%'], c.moved 2)
  else if c.peek 1 = some '\x7b' then do
    let (pad, c) ← optional padding (c.moved 2)
    let (base, c) ← optional base c
    let (channel, c) ← channel c
    return (.expansion ⟨channel, base.getD .decimal, pad⟩, c)
  else .error (.failed c)

/-- The position of the first `%` from a position on, or else the end. -/
def percentFrom (text : Text) (position : Nat) : Nat :=
  if inside : position < text.length then
    if text[position] = '%' then position else percentFrom text (position + 1)
  else text.length
termination_by text.length - position

def element (c : Cursor) : Except Halt (Node × Cursor) := do
  let first ← (character c).mapError .refused
  if first = '%' then expansion c
  else
    let stop := percentFrom c.text c.position
    return (.literal (c.slice stop), ⟨c.text, stop⟩)

/-- The cursor in front of a text that ends the whole. -/
def before (text rest : Text) : Cursor := ⟨text, text.length - rest.length⟩

/-- An element that cannot be completed, with an end of the text left unread. -/
def Halt.leaving (text unread : Text) : Halt := .failed (before text unread)

theorem drop_before (ends : rest <:+ text) : text.drop (before text rest).position = rest :=
  (List.suffix_iff_eq_drop.mp ends).symm

theorem peek_before (ends : rest <:+ text) (offset : Nat) :
    (before text rest).peek offset = rest[offset]? := by
  conv_rhs => rw [← drop_before ends]
  rw [List.getElem?_drop]
  rfl

theorem moved_before (ends : rest <:+ text) {n : Nat} (room : n ≤ rest.length) :
    (before text rest).moved n = before text (rest.drop n) := by
  have fits := ends.length_le
  simp only [before, Cursor.moved, Cursor.mk.injEq, List.length_drop, true_and]
  omega

theorem slice_before {front : Text} (ends : (front ++ rest) <:+ text) :
    (before text (front ++ rest)).slice (before text rest).position = front := by
  have fits := ends.length_le
  have count : (before text rest).position - (before text (front ++ rest)).position =
      front.length := by
    rw [List.length_append] at fits
    simp only [before, List.length_append]
    omega
  rw [Cursor.slice, count]
  exact (congrArg (List.take front.length) (drop_before ends)).trans List.take_left

/-- A cursor inside its text stands in front of what is left of it. -/
theorem eq_before {c : Cursor} (inside : c.position ≤ c.text.length) :
    c = before c.text (c.text.drop c.position) := by
  cases c
  simp only [before, Cursor.mk.injEq, List.length_drop, true_and]
  simp only at inside
  omega

theorem digitsEnd_before (ends : rest <:+ text) (room : Nat) : digitsEnd room (before text rest) =
    before text (rest.drop ((rest.take room).takeWhile Numeral.isDecimal).length) := by
  induction room generalizing rest with
  | zero => simp [digitsEnd]
  | succ room ih =>
    cases rest with
    | nil => simp [digitsEnd, peek_before ends]
    | cons c rest =>
      by_cases digit : Numeral.isDecimal c = true
      · have tail : rest <:+ text := (List.suffix_cons c rest).trans ends
        rw [digitsEnd, peek_before ends, moved_before ends (by simp)]
        simpa [digit] using ih tail
      · rw [digitsEnd, peek_before ends]
        simp [digit]

/-- The digits that could be a width, at most five of them. -/
private def widthDigits (rest : Text) : Text := (rest.take 5).takeWhile Numeral.isDecimal

private theorem widthDigits_prefix (rest : Text) : widthDigits rest <+: rest :=
  (List.takeWhile_prefix _).trans (List.take_prefix 5 rest)

private theorem widthDigits_valid (rest : Text) :
    (widthDigits rest).length ≤ 5 ∧ ∀ c ∈ widthDigits rest, Numeral.isDecimal c = true :=
  ⟨(List.takeWhile_prefix _).length_le.trans (List.length_take_le 5 rest),
    List.all_eq_true.mp List.all_takeWhile⟩

/-- No padding that is spelled is refused. -/
theorem make_padding (pad : PadSpelling) :
    Padding.make [pad.fill] (Numeral.decimalValue pad.digits) = .ok pad.padding := by
  have bound : Numeral.decimalValue pad.digits ≤ greatestPadWidth := pad.padding.width_le
  simp [Padding.make, PadSpelling.padding, bound]

/-- Up to five digits are a number, and make a padding unless they are no width. -/
theorem paddingOf_digits (fill : Char) {digits : Text} (stop : Cursor) (given : digits ≠ [])
    (short : digits.length ≤ 5) (valid : ∀ c ∈ digits, Numeral.isDecimal c = true) :
    paddingOf fill digits stop =
      if isWidth : isPadWidth digits = true then
        .matched (PadSpelling.padding ⟨fill, digits, isWidth⟩) stop
      else .halted (.failed stop) := by
  have width : isPadWidth digits = true ↔ Numeral.decimalValue digits ≤ greatestPadWidth := by
    rw [isPadWidth_iff]
    exact ⟨fun all => all.2.2.2, fun bounded => ⟨given, short, valid, bounded⟩⟩
  rw [paddingOf, read?_digits given valid]
  by_cases isWidth : isPadWidth digits = true
  · have made := make_padding ⟨fill, digits, isWidth⟩
    simp only at made
    simp only [if_neg (width.mp isWidth).not_gt, made, dif_pos isWidth]
  · have wide := Nat.lt_of_not_le (mt width.mpr isWidth)
    simp only [if_pos wide, dif_neg isWidth]

/-- The cursor finds the padding, or the lack of one, that the reader finds. -/
theorem padding_before (ends : rest <:+ text) : optional padding (before text rest) =
    ((PadSpelling.read rest).map fun found =>
      (found.1.map PadSpelling.padding, before text found.2)).mapError (Halt.leaving text) := by
  rw [optional, padding, peek_before ends, peek_before ends]
  cases rest with
  | nil => rfl
  | cons fill rest =>
    have tail : rest <:+ text := (List.suffix_cons fill rest).trans ends
    have moved : (before text (fill :: rest)).moved 1 = before text rest :=
      moved_before ends (by simp)
    have lead := widthDigits_prefix rest
    have whole : widthDigits rest ++ rest.drop (widthDigits rest).length = rest :=
      List.prefix_iff_eq_append.mp lead
    have stop : digitsEnd 5 (before text rest) =
        before text (rest.drop (widthDigits rest).length) := digitsEnd_before tail 5
    have slice := slice_before (whole.symm ▸ tail)
    rw [whole] at slice
    rw [PadSpelling.read]
    cases rest with
    | nil => rfl
    | cons c rest =>
      by_cases digit : Numeral.isDecimal c = true
      · have given : widthDigits (c :: rest) ≠ [] := by simp [widthDigits, digit]
        obtain ⟨short, valid⟩ := widthDigits_valid (c :: rest)
        have digits : ((c :: rest).take 5).takeWhile Numeral.isDecimal = widthDigits (c :: rest) :=
          rfl
        simp only [List.getElem?_cons_zero, List.getElem?_cons_succ, digit, if_true, moved, stop,
          slice, digits, List.isEmpty_iff, if_neg given, paddingOf_digits fill _ given short valid]
        by_cases width : isPadWidth (widthDigits (c :: rest)) = true
        · rw [dif_pos width, dif_pos width]
          rfl
        · rw [dif_neg width, dif_neg width]
          rfl
      · simp only [List.getElem?_cons_zero, List.getElem?_cons_succ, digit, List.take_succ_cons,
          List.takeWhile_cons]
        rfl

theorem base_before (ends : rest <:+ text) : optional base (before text rest) =
    .ok ((Element.readBase rest).1, before text (Element.readBase rest).2) := by
  rw [optional, base, peek_before ends]
  cases rest with
  | nil => rfl
  | cons c rest =>
    have moved : (before text (c :: rest)).moved 1 = before text rest :=
      moved_before ends (by simp)
    rw [List.getElem?_cons_zero, Option.bind_some, Element.readBase, moved]
    cases Base.ofLetter? c <;> rfl

theorem channel_before (ends : rest <:+ text) : channel (before text rest) =
    ((Element.readChannel rest).map fun found => (found.1, before text found.2)).mapError
      (Halt.leaving text) := by
  rw [channel, peek_before ends]
  cases rest with
  | nil => rfl
  | cons c rest =>
    have tail : rest <:+ text := (List.suffix_cons c rest).trans ends
    have moved : (before text (c :: rest)).moved 1 = before text rest :=
      moved_before ends (by simp)
    rw [List.getElem?_cons_zero, Option.toList_some, Channel.select, moved, peek_before tail]
    cases selected : Channel.ofLetter? c with
    | none =>
      simp only [Element.readChannel, selected]
      rfl
    | some found =>
      cases rest with
      | nil =>
        simp only [Element.readChannel, selected]
        rfl
      | cons brace after =>
        have movedTwice : (before text (c :: brace :: after)).moved 2 = before text after :=
          moved_before ends (by simp)
        rw [movedTwice, List.getElem?_cons_zero]
        by_cases closes : brace = '\x7d'
        · subst closes
          simp only [Element.readChannel, selected]
          rfl
        · have left : Element.readChannel (c :: brace :: after) = .error (brace :: after) := by
            simp [Element.readChannel, selected, closes]
          simp only [left, Option.elim, Option.some.injEq, if_neg closes]
          rfl

theorem suffix_of_readPadding {pad : Option PadSpelling} {after : Text}
    (read : PadSpelling.read rest = .ok (pad, after)) : after <:+ rest :=
  ⟨_, PadSpelling.source_append_of_read read⟩

theorem suffix_of_readBase (rest : Text) : (Element.readBase rest).2 <:+ rest :=
  ⟨_, Element.source_append_of_readBase rfl⟩

theorem suffix_of_read {first : Char} {after : Text} {e : Element}
    (read : Element.read first rest = .ok (e, after)) : after <:+ first :: rest :=
  ⟨_, Element.source_append_of_read read⟩

/-- An expansion is found, or given up, where the reader finds it or gives up. -/
theorem body_before (ends : ('%' :: '\x7b' :: rest) <:+ text) :
    expansion (before text ('%' :: '\x7b' :: rest)) =
      ((Element.readBody rest).map fun found =>
        (found.1.node, before text found.2)).mapError (Halt.leaving text) := by
  have tail : rest <:+ text := ((List.suffix_cons _ _).trans (List.suffix_cons _ _)).trans ends
  have moved : (before text ('%' :: '\x7b' :: rest)).moved 2 = before text rest :=
    moved_before ends (by simp)
  rw [expansion, peek_before ends, moved, padding_before tail, Element.readBody]
  cases padRead : PadSpelling.read rest with
  | error unread => rfl
  | ok found =>
    obtain ⟨pad, afterPad⟩ := found
    have afterPadEnds := (suffix_of_readPadding padRead).trans tail
    have afterBaseEnds := (suffix_of_readBase afterPad).trans afterPadEnds
    simp only [bind, Except.bind, Except.map, Except.mapError, base_before afterPadEnds,
      channel_before afterBaseEnds]
    cases Element.readChannel (Element.readBase afterPad).2 with
    | error unread => rfl
    | ok found => rfl

theorem percentFrom_before (ends : rest <:+ text) :
    percentFrom text (before text rest).position =
      (before text (rest.dropWhile (· ≠ '%'))).position := by
  induction rest with
  | nil =>
    rw [percentFrom]
    simp [before]
  | cons c rest ih =>
    have tail : rest <:+ text := (List.suffix_cons c rest).trans ends
    have fits := ends.length_le
    have inside : (before text (c :: rest)).position < text.length := by
      simp only [before, List.length_cons] at fits ⊢
      omega
    have first : text[(before text (c :: rest)).position] = c := by
      obtain ⟨_, found⟩ := List.getElem?_eq_some_iff.mp (peek_before ends 0)
      exact found
    rw [percentFrom, dif_pos inside, first]
    by_cases percent : c = '%'
    · simp [percent]
    · have next : (before text (c :: rest)).position + 1 = (before text rest).position :=
        congrArg Cursor.position (moved_before ends (n := 1) (by simp))
      rw [if_neg percent, next, ih tail]
      simp [percent]

theorem expansion_before (ends : ('%' :: rest) <:+ text) : expansion (before text ('%' :: rest)) =
    ((Element.read '%' rest).map fun found => (found.1.node, before text found.2)).mapError
      (Halt.leaving text) := by
  cases rest with
  | nil =>
    rw [expansion, peek_before ends]
    rfl
  | cons c rest =>
    by_cases percent : c = '%'
    · subst percent
      rw [expansion, peek_before ends, moved_before ends (by simp)]
      rfl
    · by_cases brace : c = '\x7b'
      · subst brace
        exact body_before ends
      · rw [expansion, peek_before ends]
        simp [percent, brace, Element.read, Except.map, Except.mapError, Halt.leaving]

theorem character_before {first : Char} (ends : (first :: rest) <:+ text) :
    character (before text (first :: rest)) = .ok first := by
  have here : text[(before text (first :: rest)).position]? = some first := peek_before ends 0
  simp only [before] at here
  simp only [character, before, here, Option.elim]

/-- From a place in its text, the cursor finds the element that the reader finds
in the rest, and stops in front of what the reader leaves. -/
theorem element_before {first : Char} (ends : (first :: rest) <:+ text) :
    element (before text (first :: rest)) =
      ((Element.read first rest).map fun found => (found.1.node, before text found.2)).mapError
        (Halt.leaving text) := by
  rw [element, character_before ends]
  by_cases percent : first = '%'
  · subst percent
    exact expansion_before ends
  · have read : Element.read first rest =
        .ok (.run (first :: rest.takeWhile (· ≠ '%')), rest.dropWhile (· ≠ '%')) := by
      simp [Element.read, percent]
    have whole : (first :: rest.takeWhile (· ≠ '%')) ++ rest.dropWhile (· ≠ '%') =
        first :: rest := by
      rw [List.cons_append, List.takeWhile_append_dropWhile]
    have slice := slice_before (whole.symm ▸ ends)
    have stop := percentFrom_before ends
    rw [List.dropWhile_cons_of_pos (by simpa using percent)] at stop
    rw [whole, ← stop] at slice
    simp only [Except.mapError, bind, Except.bind, if_neg percent, read]
    exact congrArg₂ (fun run stop => Except.ok (Node.literal run, Cursor.mk text stop)) slice stop

/-- An element is never empty, so the cursor behind it is further on. -/
theorem moves_of_element {c after : Cursor} {node : Node} (inside : c.position < c.text.length)
    (found : element c = .ok (node, after)) : c.position < after.position := by
  have ends := List.drop_suffix c.position c.text
  rw [eq_before inside.le, List.drop_eq_getElem_cons inside] at found
  rw [List.drop_eq_getElem_cons inside] at ends
  rw [element_before ends] at found
  cases read : Element.read c.text[c.position] (c.text.drop (c.position + 1)) with
  | error unread => simp [read, Except.map, Except.mapError] at found
  | ok element =>
    obtain ⟨e, rest⟩ := element
    have shorter := Element.length_lt_of_read read
    simp only [read, Except.map, Except.mapError, Except.ok.injEq, Prod.mk.injEq] at found
    rw [← found.2]
    simp only [List.length_cons, List.length_drop] at shorter
    simp only [before]
    omega

/-- The cursor of a reader. -/
def place (r : TemplateReader) : Cursor := ⟨r.text, r.position⟩

/-- How reading on ends: with nothing left, at an element that cannot be completed,
or with a refusal, behind which there is nothing to go on with. -/
inductive Ending where
  | finished (r : TemplateReader)
  | failed (r : TemplateReader)
  | refused (refusal : Refusal)

/-- What reading on comes to: the spans that are complete, and how it ends. -/
structure Course where
  spans : List Span
  ending : Ending

/-- Reads on from where a reader stands, element by element, and adds to the spans
that are complete. The reader keeps the place where the last element began. -/
def course (found : List Span) (r : TemplateReader) : Course :=
  if _ : r.position < r.text.length then
    match _ : element (place r) with
    | .error (.failed stopped) => ⟨found, .failed ⟨r.text, stopped.position, r.position⟩⟩
    | .error (.refused refusal) => ⟨found, .refused refusal⟩
    | .ok (node, after) =>
      course (found ++ [⟨node, r.position, after.position⟩]) ⟨r.text, after.position, r.position⟩
  else ⟨found, .finished r⟩
termination_by r.text.length - r.position
decreasing_by
  have moves := moves_of_element (c := place r) (by assumption) (by assumption)
  simp only [place] at moves
  omega

/-- The spans of the rest of a text. The spans in front of a failure are lost with
it. -/
def scan (r : TemplateReader) : Except Refusal (Except FormatError (List Span) × TemplateReader) :=
  match (course [] r).ending with
  | .finished last => .ok (.ok (course [] r).spans, last)
  | .failed last => .ok (.error (.malformed last.text last.start), last)
  | .refused refusal => .error refusal

/-- The template of the parts in the rest of a text. -/
def parse (r : TemplateReader) : Except Refusal (Except FormatError Template × TemplateReader) :=
  (scan r).map fun (spans, last) => (spans.map fun found => ⟨found.map Span.node, r.text⟩, last)

/-- A reader that was not asked yet. -/
def fresh (text : Text) : TemplateReader := { text := text }

/-- The reader in front of a text that ends the whole. -/
def standing (text rest : Text) (start : Nat) : TemplateReader :=
  ⟨text, (before text rest).position, start⟩

theorem place_standing (start : Nat) : place (standing text rest start) = before text rest := rfl

theorem eq_standing {r : TemplateReader} (inside : r.position ≤ r.text.length) :
    r = standing r.text (r.text.drop r.position) r.start := by
  cases r
  simp only [standing, before, TemplateReader.mk.injEq, List.length_drop, true_and, and_true]
  simp only at inside
  omega

theorem drop_standing (ends : rest <:+ text) (start : Nat) :
    (standing text rest start).text.drop (standing text rest start).position = rest :=
  drop_before ends

/-- At the end of its text, a reader finds nothing and stays as it is. -/
theorem scan_at_end (text : Text) (start : Nat) :
    (standing text [] start).scan = (.ok [], standing text [] start) := by
  have nothing := drop_standing (List.nil_suffix (l := text)) start
  rw [TemplateReader.scan, nothing, reading_nil]
  simp [standing, before, Element.spans]

/-- An element that cannot be completed ends the call where the element was left
unread. -/
theorem scan_of_error {first : Char} {unread : Text} (start : Nat)
    (ends : (first :: rest) <:+ text) (read : Element.read first rest = .error unread) :
    (standing text (first :: rest) start).scan =
      (.error (.malformed text (before text (first :: rest)).position),
        standing text unread (before text (first :: rest)).position) := by
  rw [TemplateReader.scan, drop_standing ends, reading_of_error read]
  rfl

theorem position_after {first : Char} {after : Text} {e : Element}
    (ends : (first :: rest) <:+ text) (read : Element.read first rest = .ok (e, after)) :
    (before text (first :: rest)).position + e.source.length = (before text after).position := by
  have fits := ends.length_le
  have length := congrArg List.length (Element.source_append_of_read read)
  rw [List.length_append] at length
  simp only [before]
  omega

/-- Behind an element that was found, the call goes on as a call on the reader
that stands there. -/
theorem scan_of_ok {first : Char} {after : Text} {e : Element} (start : Nat)
    (ends : (first :: rest) <:+ text) (read : Element.read first rest = .ok (e, after)) :
    (standing text (first :: rest) start).scan =
      let further := (standing text after (before text (first :: rest)).position).scan
      (further.1.map
        (⟨e.node, (before text (first :: rest)).position, (before text after).position⟩ :: ·),
        further.2) := by
  have afterEnds := (suffix_of_read read).trans ends
  have stop := position_after ends read
  simp only [TemplateReader.scan, drop_standing ends, drop_standing afterEnds, reading_of_ok read]
  cases (Reading.of after).breakdown with
  | none =>
    have inside : (before text (first :: rest)).position ≤ text.length := Nat.sub_le _ _
    have insideAfter : (before text after).position ≤ text.length := Nat.sub_le _ _
    simp only [standing, Element.spans, stop, List.getLast?_cons, Nat.max_eq_right inside,
      Nat.max_eq_right insideAfter]
    cases (Element.spans (before text after).position (Reading.of after).elements).getLast? <;> rfl
  | some b => rfl

/-- One turn of the loop, by the outcome of reading an element. -/
theorem course_inside {r : TemplateReader} (found : List Span)
    (inside : r.position < r.text.length) : course found r =
    match element (place r) with
    | .error (.failed stopped) => ⟨found, .failed ⟨r.text, stopped.position, r.position⟩⟩
    | .error (.refused refusal) => ⟨found, .refused refusal⟩
    | .ok (node, after) =>
      course (found ++ [⟨node, r.position, after.position⟩])
        ⟨r.text, after.position, r.position⟩ := by
  rw [course, dif_pos inside]
  split <;> rename_i outcome <;> rw [outcome]

theorem standing_inside {first : Char} (ends : (first :: rest) <:+ text) (start : Nat) :
    let r := standing text (first :: rest) start
    r.position < r.text.length := by
  have fits := ends.length_le
  simp only [standing, before, List.length_cons] at fits ⊢
  omega

/-- Going by positions, the loop adds the spans of what the reader finds in the rest
of the text. It ends as the reader does, and where the reader does. -/
theorem course_standing (ends : rest <:+ text) (found : List Span) (start : Nat) :
    let last := (standing text rest start).scan.2
    course found (standing text rest start) =
      ⟨found ++ Element.spans (before text rest).position (Reading.of rest).elements,
        (Reading.of rest).breakdown.elim (.finished last) fun _ => .failed last⟩ := by
  -- The rest is read element by element, as the cursor reads it.
  fun_induction Reading.of rest generalizing found start with
  | case1 =>
    rw [scan_at_end, course, dif_neg]
    · simp [Element.spans]
    · simp [standing, before]
  | case2 first rest unread read =>
    have stopped : element (before text (first :: rest)) = .error (.leaving text unread) := by
      rw [element_before ends, read]
      rfl
    have inside := standing_inside ends start
    rw [scan_of_error start ends read, course_inside found inside]
    rw [place_standing, stopped, Element.spans, List.append_nil]
    rfl
  | case3 first rest e after read further ih =>
    have node : element (before text (first :: rest)) = .ok (e.node, before text after) := by
      rw [element_before ends, read]
      rfl
    have inside := standing_inside ends start
    have behind := ih ((suffix_of_read read).trans ends)
      (found ++ [⟨e.node, (before text (first :: rest)).position, (before text after).position⟩])
      (before text (first :: rest)).position
    rw [List.append_assoc, List.singleton_append] at behind
    rw [scan_of_ok start ends read, course_inside found inside, place_standing, node]
    rw [Element.spans, position_after ends read]
    exact behind

theorem course_eq {r : TemplateReader} (found : List Span) (inside : r.position ≤ r.text.length) :
    let reading := Reading.of (r.text.drop r.position)
    course found r = ⟨found ++ Element.spans r.position reading.elements,
      reading.breakdown.elim (.finished r.scan.2) fun _ => .failed r.scan.2⟩ := by
  have same := course_standing (List.drop_suffix r.position r.text) found r.start
  have position : (before r.text (r.text.drop r.position)).position = r.position :=
    (congrArg Cursor.position (eq_before (c := place r) inside)).symm
  rwa [← eq_standing inside, position] at same

/-- From any place inside its text, the reader's answers and its later states are
those of the cursor, to which nothing is refused. -/
theorem scan_eq {r : TemplateReader} (inside : r.position ≤ r.text.length) :
    scan r = .ok r.scan := by
  rw [scan, course_eq [] inside, TemplateReader.scan]
  cases (Reading.of (r.text.drop r.position)).breakdown <;> rfl

theorem parse_eq {r : TemplateReader} (inside : r.position ≤ r.text.length) :
    parse r = .ok r.parse := by
  rw [parse, scan_eq inside]
  rfl

/-- A fresh reader finds the spans of its text. -/
theorem scan_fresh (text : Text) : (fresh text).scan.1 = Template.scan text := by
  simp only [TemplateReader.scan, Template.scan, fresh, List.drop_zero]
  cases (Reading.of text).breakdown <;> rfl

theorem nodes_of_spans (position : Nat) (elements : List Element) :
    (Element.spans position elements).map Span.node = elements.map Element.node := by
  induction elements generalizing position with
  | nil => rfl
  | cons e elements ih => rw [Element.spans, List.map_cons, List.map_cons, ih]

/-- A fresh reader finds the template of its text. -/
theorem parse_fresh (text : Text) : (fresh text).parse.1 = Template.parse text := by
  simp only [TemplateReader.parse, scan_fresh, Template.scan, Template.parse]
  cases (Reading.of text).breakdown with
  | none => simp [Except.map, nodes_of_spans, fresh]
  | some b => rfl

/-- On a text that is refused, the loop ends at the failing element, with the spans
of the elements in front of it. -/
theorem course_of_error {e : FormatError} (failed : Template.parse text = .error e) :
    let ran := course [] (fresh text)
    ran.spans = Element.spans 0 (Reading.of text).elements ∧
      ∃ last, ran.ending = .failed last ∧ last.start = e.position := by
  obtain ⟨b, broken, rfl⟩ := parse_error_iff.mp failed
  have ran := course_eq [] (r := fresh text) (Nat.zero_le _)
  simp only [fresh, List.drop_zero, List.nil_append, broken, Option.elim] at ran
  rw [fresh, ran]
  refine ⟨rfl, _, rfl, ?_⟩
  simp [TemplateReader.scan, broken, FormatError.position]

end Swatch.CursorReading
