import Swatch.Preset
import Swatch.Template.Reading

/-!
Formatters: what a sample is rendered with, which is a template or a preset, and the choice between
them when a run names one, the other or neither.
-/
namespace Swatch

/-- What samples are rendered with. -/
inductive Formatter where
  | template (t : Template)
  | preset (p : Preset)
  deriving DecidableEq

/-- Why a run gets no formatter: it asked for two, or the one it asked for cannot be used. -/
inductive ChoiceError where
  | both
  | format (e : FormatError)
  deriving DecidableEq

/-- The wording of a refused choice. -/
def ChoiceError.message : ChoiceError → Text
  | both => "a preset and a custom template are mutually exclusive".toList
  | format e => e.message

/-- A value of a document in a place where a formatter is needed. -/
structure NotAFormatter where
  found : Value

/-- The wording of that refusal. -/
def NotAFormatter.message (e : NotAFormatter) : Text :=
  "not a formatter: ".toList ++ e.found.display

namespace Formatter

/-- The formatter for a preset name and a custom template of which at most one is given; the default
preset when neither is. -/
def choose (name custom : Option Text) : Except ChoiceError Formatter :=
  match name, custom with
  | some _, some _ => .error .both
  | none, some text => ((Template.parse text).map template).mapError .format
  | _, none => ((Preset.ofName (name.getD Preset.defaultName)).map preset).mapError .format

/-- The rendering of a sample. -/
def render : Formatter → Sample → Text
  | template t, s => t.render s
  | preset p, s => p.render s

/-- Two formatters are alike when they are templates with the same parts or the same preset. -/
def alike : Formatter → Formatter → Bool
  | template left, template right => left.alike right
  | preset left, preset right => left == right
  | _, _ => false

/-- A document value never renders a sample. -/
def renderWith (found : Value) (_ : Sample) : Except NotAFormatter Text := .error ⟨found⟩

end Formatter

end Swatch
