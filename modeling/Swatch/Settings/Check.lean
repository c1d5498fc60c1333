import Swatch.Document.Merge
import Swatch.Settings.Problem

/-!
Checking a mapping that is to become settings. Fields are judged in the order format, custom,
templates, editor, and all their problems are reported. Whether a template has the name of a preset
is judged last, and only when nothing else is wrong. Keys that are no field are ignored.
-/
namespace Swatch

/-- The text a value is. Bytes are the text that they encode. -/
def readText : Value → Except Complaint Text
  | .scalar (.text t) => .ok t
  | .scalar (.bytes b) => (Text.ofBytes? b).elim (.error .notEncoded) .ok
  | _ => .error .notText

/-- The text a value at a place is. -/
def checkText (place : List PathStep) (v : Value) : Checked Text :=
  match readText v with
  | .ok t => .ok t
  | .error complaint => .problem place complaint

/-- An entry of a mapping from texts to texts. Its key and its value are judged separately. -/
def checkEntry (place : List PathStep) (entry : Scalar × Value) : Checked (Text × Text) :=
  let place := place ++ [PathStep.ofKey entry.1]
  Checked.both (checkText (place ++ [.field "[key]"]) (.scalar entry.1)) (checkText place entry.2)

/-- The entries of a mapping from texts to texts. -/
def checkEntries (place : List PathStep) : Mapping → Checked (List (Text × Text))
  | [] => .ok []
  | entry :: rest =>
    (Checked.both (checkEntry place entry) (checkEntries place rest)).map fun (e, es) => e :: es

/-- Entries with one more, which takes the place of the one under the same name. -/
def putText (entries : List (Text × Text)) (entry : Text × Text) : List (Text × Text) :=
  if (entries.lookup entry.1).isSome then
    entries.map fun known => if known.1 = entry.1 then entry else known
  else entries ++ [entry]

/-- A mapping from texts to texts. Keys that are the same text, one of them as bytes, become one. -/
def checkTexts (place : List PathStep) (v : Value) : Checked (List (Text × Text)) :=
  v.mapping?.elim (.problem place .notMapping) fun entries =>
    (checkEntries place entries).map fun texts => texts.foldl putText []

/-- The value of a field judged as given, or its default when the mapping has no such field. -/
def checkField {α : Type} (data : Mapping) (name : String) (default : α)
    (judge : Value → Checked α) : Checked α :=
  (data.field? name).elim (.ok default) judge

namespace EditorSettings

/-- A preview sample that can be read. -/
def checkPreviewSample (place : List PathStep) (v : Value) : Checked Text := do
  let text ← checkText place v
  match Sample.read text with
  | .ok _ => return text
  | .error e => .problem place (.refused (.color e))

/-- The editor settings that a mapping at a place holds. -/
def check (place : List PathStep) (data : Mapping) : Checked EditorSettings :=
  let samplePlace := place ++ [.field "preview_sample"]
  let stylesPlace := place ++ [.field "styles"]
  let sample := checkField data "preview_sample" ({} : EditorSettings).previewSample
    (checkPreviewSample samplePlace)
  let styles := checkField data "styles" [] (checkTexts stylesPlace)
  (Checked.both sample styles).map fun (sample, styles) => ⟨sample, styles⟩

end EditorSettings

namespace Settings

/-- The name of a preset. -/
def checkFormat (v : Value) : Checked Text := do
  let place := [.field "format"]
  let name ← checkText place v
  if Preset.names.contains name then return name else .problem place (.refused (.format name))

/-- A template, or nothing at all. -/
def checkCustom (v : Value) : Checked (Option Text) :=
  let place := [.field "custom"]
  match v with
  | .scalar .null => .ok none
  | _ => do
    let text ← checkText place v
    if Template.accepts text then return some text
    else .problem place (.refused (.template text))

/-- Named templates. The first text that spells no template is reported. -/
def checkTemplates (v : Value) : Checked (List (Text × Text)) := do
  let place := [.field "templates"]
  let templates ← checkTexts place v
  match templates.find? fun entry => !Template.accepts entry.2 with
  | none => return templates
  | some entry => .problem place (.refused (.template entry.2))

/-- The settings of the editor. -/
def checkEditor (v : Value) : Checked EditorSettings :=
  let place := [.field "editor"]
  v.mapping?.elim (.problem place .notEditor) (EditorSettings.check place)

/-- The template names that are names of presets, in order. -/
def clashes (templates : List (Text × Text)) : List Text :=
  (Preset.names.filter fun name => (templates.lookup name).isSome).mergeSort Text.precedes

/-- The settings that a mapping holds. -/
def check (data : Mapping) : Checked Settings := do
  let format := checkField data "format" ({} : Settings).format checkFormat
  let custom := checkField data "custom" none checkCustom
  let templates := checkField data "templates" [] checkTemplates
  let editor := checkField data "editor" {} checkEditor
  let (format, custom, templates, editor) ←
    Checked.both format (Checked.both custom (Checked.both templates editor))
  let clashing := clashes templates
  if clashing.isEmpty then return ⟨format, custom, templates, editor⟩
  else .problem [] (.refused (.clash clashing))

end Settings

end Swatch
