import Swatch.FormatError
import Swatch.Template.Element

/-!
Reading template texts. One reading serves every purpose: the parts of the template, their spans in
the text, the position of an error, and the highlighting of a text that is still being typed.
-/
namespace Swatch

/-- Where a reading gave up: the text from the element that could not be completed on, and the end
of it that was left unread. -/
structure Breakdown where
  tail : Text
  unread : Text
  deriving DecidableEq

/-- What reading a text found: the elements in order, and where it gave up if it did. -/
structure Reading where
  elements : List Element
  breakdown : Option Breakdown
  deriving DecidableEq

/-- Reads a text element by element. -/
def Reading.of (text : Text) : Reading :=
  match text with
  | [] => ⟨[], none⟩
  | c :: rest =>
    match _ : Element.read c rest with
    | .error unread => ⟨[], some ⟨c :: rest, unread⟩⟩
    | .ok (e, after) =>
      let further := Reading.of after
      ⟨e :: further.elements, further.breakdown⟩
termination_by text.length
decreasing_by exact Element.length_lt_of_read (by assumption)

/-- A part of a template with the place of its spelling in the text. -/
structure Span where
  node : Node
  start : Nat
  stop : Nat
  deriving DecidableEq

/-- The spans of elements that follow one another from a position on. -/
def Element.spans (position : Nat) : List Element → List Span
  | [] => []
  | e :: rest =>
    let stop := position + e.source.length
    ⟨e.node, position, stop⟩ :: spans stop rest

namespace Template

/-- The spans of a template text. -/
def scan (text : Text) : Except FormatError (List Span) :=
  let reading := Reading.of text
  match reading.breakdown with
  | none => .ok (Element.spans 0 reading.elements)
  | some b => .error (.malformed text (text.length - b.tail.length))

/-- The template that a text spells. -/
def parse (text : Text) : Except FormatError Template :=
  let reading := Reading.of text
  match reading.breakdown with
  | none => .ok ⟨reading.elements.map Element.node, text⟩
  | some b => .error (.malformed text (text.length - b.tail.length))

/-- Whether a text spells a template. -/
def accepts (text : Text) : Bool := (Reading.of text).breakdown.isNone

end Template

/-- A reader that can be asked again and goes on from where it stopped. After a success it is at
the end of its text; after a failure it is where the failing element was left. The start is that of
the last element begun. -/
structure TemplateReader where
  text : Text
  position : Nat := 0
  start : Nat := 0
  deriving DecidableEq

namespace TemplateReader

/-- Reads the rest of the text into spans. -/
def scan (reader : TemplateReader) : Except FormatError (List Span) × TemplateReader :=
  let text := reader.text
  let reading := Reading.of (text.drop reader.position)
  let spans := Element.spans reader.position reading.elements
  match reading.breakdown with
  | none =>
    let start := (spans.getLast?.map Span.start).getD reader.start
    (.ok spans, ⟨text, max reader.position text.length, start⟩)
  | some b =>
    let start := text.length - b.tail.length
    (.error (.malformed text start), ⟨text, text.length - b.unread.length, start⟩)

/-- Reads the rest of the text into a template, whose source is the whole text. -/
def parse (reader : TemplateReader) : Except FormatError Template × TemplateReader :=
  let (spans, after) := reader.scan
  (spans.map fun found => ⟨found.map Span.node, reader.text⟩, after)

end TemplateReader

end Swatch
