import Swatch.Template.Reading

/-!
Highlighting of template texts. Every character of a text belongs to exactly one fragment, and the
text from the first element that cannot be completed on is a single fragment of class `error`.
-/
namespace Swatch

/-- The classes of highlighted text. -/
inductive StyleClass where
  | literal
  | escape
  | expansion
  | pad
  | base
  | channel
  | error
  deriving DecidableEq

namespace StyleClass

/-- The classes in the order in which styles are listed. -/
def all : List StyleClass := [literal, escape, expansion, pad, base, channel, error]

theorem mem_all (c : StyleClass) : c ∈ all := by cases c <;> simp [all]

/-- The name of a class. -/
def name : StyleClass → Text
  | literal => "literal".toList
  | escape => "escape".toList
  | expansion => "expansion".toList
  | pad => "pad".toList
  | base => "base".toList
  | channel => "channel".toList
  | error => "error".toList

/-- What every class is given by some entries; a class without an entry is given the blank. -/
def tableWith {α : Type} (blank : α) (entries : List (Text × α)) : List (Text × α) :=
  all.map fun c => (c.name, (entries.lookup c.name).getD blank)

/-- The style of every class under given settings; a class without a setting has an empty style. -/
def table (styles : List (Text × Text)) : List (Text × Text) := tableWith [] styles

end StyleClass

/-- A piece of text with the class it is shown in, if it has one. -/
structure Fragment where
  style : Option StyleClass
  text : Text
  deriving DecidableEq

/-- A piece of text of a class. -/
abbrev StyleClass.on (c : StyleClass) (text : Text) : Fragment := ⟨some c, text⟩

/-- The fragments of an element. Of an expansion, the padding and the base have fragments only when
they are spelled out. -/
def Element.fragments : Element → List Fragment
  | run text => [StyleClass.literal.on text]
  | percent => [StyleClass.escape.on ['%', '%']]
  | expansion pad base channel =>
    [StyleClass.expansion.on ['%', '\x7b']] ++
      (pad.elim [] fun p => [StyleClass.pad.on p.source]) ++
      (base.elim [] fun b => [StyleClass.base.on [b.letter]]) ++
      [StyleClass.channel.on [channel.letter], StyleClass.expansion.on ['\x7d']]

namespace Highlight

/-- The fragments of a text: those of its elements and, where reading it breaks down, the rest as
an error. -/
def fragments (text : Text) : List Fragment :=
  let reading := Reading.of text
  reading.elements.flatMap Element.fragments ++
    reading.breakdown.elim [] fun b => [StyleClass.error.on b.tail]

/-- Puts the pieces of one fragment, cut at line breaks, in front of the lines that follow: the last
piece begins the first of them and every other piece ends a line. -/
def inFrontOf (style : Option StyleClass) : List Text → List (List Fragment) → List (List Fragment)
  | [], below => below
  | [last], [] => [[⟨style, last⟩]]
  | [last], line :: below => (⟨style, last⟩ :: line) :: below
  | piece :: more, below => [⟨style, piece⟩] :: inFrontOf style more below

/-- Fragments cut into lines. Every piece is kept, also an empty one, and there is always a last
line. -/
def lines (fragments : List Fragment) : List (List Fragment) :=
  fragments.foldr (fun f below => inFrontOf f.style (f.text.pieces '\n') below) [[]]

/-- The fragments of one line of a text, counted from zero; none past the last line. -/
def line (text : Text) (number : Nat) : List Fragment :=
  ((lines (fragments text))[number]?).getD []

end Highlight

end Swatch
