import Swatch.Padding
import Swatch.Sample.Channel

/-!
Templates and their rendering. A template is a sequence of literal texts and expansions; an
expansion stands for a channel of the sample that is rendered.
-/
namespace Swatch

/-- A place in a template where a channel is shown. -/
structure Expansion where
  channel : Channel
  base : Base := .decimal
  pad : Option Padding := none
  deriving DecidableEq

/-- A part of a template. -/
inductive Node where
  | literal (text : Text)
  | expansion (e : Expansion)
  deriving DecidableEq

/-- A template, with the text it was read from if it was read. -/
structure Template where
  nodes : List Node
  source : Text := []
  deriving DecidableEq

/-- The text of a channel of a sample in the expansion's base and padding. -/
def Expansion.render (e : Expansion) (s : Sample) : Text :=
  (e.base.numeral (s.channel e.channel).toNat).padded e.pad

/-- What a part of a template contributes to the rendering of a sample. -/
def Node.render (node : Node) (s : Sample) : Text :=
  match node with
  | .literal text => text
  | .expansion e => e.render s

namespace Template

/-- The rendering of a sample: its parts in order. -/
def render (template : Template) (s : Sample) : Text :=
  template.nodes.flatMap fun node => node.render s

/-- Two templates are alike when they have the same parts, whatever texts they were read from. -/
def alike (left right : Template) : Bool := left.nodes == right.nodes

end Template

end Swatch
