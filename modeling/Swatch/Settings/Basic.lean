import Swatch.Editor.Session
import Swatch.Formatter
import Swatch.Sample.Reading

/-!
Settings: the output form used when a run names none, the named templates, and the settings of the
editor. A record of settings may hold anything; `Settings.check` is what produces records that can
be relied on.
-/
namespace Swatch

/-- The settings of the template editor. -/
structure EditorSettings where
  previewSample : Text := "#808080".toList
  styles : List (Text × Text) := []
  deriving DecidableEq

/-- The settings of a run. A custom template takes precedence over the format. -/
structure Settings where
  format : Text := Preset.defaultName
  custom : Option Text := none
  templates : List (Text × Text) := []
  editor : EditorSettings := {}
  deriving DecidableEq

/-- Why settings give no formatter. -/
inductive FormatterError where
  | unknownTemplate (name : Text)
  | format (e : FormatError)
  deriving DecidableEq

/-- The sample the editor previews. -/
def EditorSettings.sample (s : EditorSettings) : Except ColorError Sample :=
  Sample.read s.previewSample

namespace Settings

/-- The text of a named template. -/
def templateText (s : Settings) (name : Text) : Except FormatterError Text :=
  (s.templates.lookup name).elim (.error (.unknownTemplate name)) .ok

/-- The template with the given name, or the formatter used when no name is given. -/
def formatter (s : Settings) (name : Option Text) : Except FormatterError Formatter :=
  match name, s.custom with
  | some name, _ => do
    let text ← s.templateText name
    ((Template.parse text).map .template).mapError .format
  | none, some text => ((Template.parse text).map .template).mapError .format
  | none, none => ((Preset.ofName s.format).map .preset).mapError .format

end Settings

end Swatch
