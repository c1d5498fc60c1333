import Swatch.Description
import Swatch.Settings.Loading

/-!
Reports of what happens in a run, which are shown on request. Every template that is read is
reported, also one that is only checked, and so is every preset that is resolved. A template option
that was given nothing is read as an empty list, which makes a template without parts.
-/
namespace Swatch.CommandLine

/-- Something that happens in a run. Templates are from its arguments or from a document. -/
inductive Report where
  | read (origin : Text.Origin) (t : Template)
  | resolved (name : Text)
  | loaded (path : Text)
  | notFound (path : Text)
  | chosen (origin : Text.Origin) (f : Formatter)
  | nothingRead
  | nothingChosen
  deriving DecidableEq

namespace Report

/-- The weight of a report. -/
def level : Report → Text
  | loaded _ => "INFO".toList
  | _ => "DEBUG".toList

/-- The part of the program that reports. -/
def origin : Report → Text
  | read _ _ => "colorfmt.core.template".toList
  | nothingRead => "colorfmt.core.template".toList
  | resolved _ => "colorfmt.core.presets".toList
  | loaded _ => "colorfmt.config.loader".toList
  | notFound _ => "colorfmt.config.loader".toList
  | chosen _ _ => "colorfmt.cli".toList
  | nothingChosen => "colorfmt.cli".toList

/-- The wording of the report of a template with a number of parts. -/
def readMessage (source : Text) (parts : Nat) : Text :=
  "Parsed template ".toList ++ source ++ " into ".toList ++ decimalText parts ++ " nodes".toList

/-- An empty list as it is shown. -/
def emptyList : Text := "[]".toList

/-- The wording of a report. -/
def message : Report → Text
  | read origin t => readMessage (t.source.quotedFrom origin) t.nodes.length
  | nothingRead => readMessage emptyList 0
  | resolved name => "Resolved preset ".toList ++ name.quoted
  | loaded path => "Config loaded from ".toList ++ path
  | notFound path => "Using default config, ".toList ++ path ++ " not found".toList
  | chosen origin f => "Using formatter ".toList ++ f.describe origin
  | nothingChosen => "Using formatter ".toList ++ Template.described .argument [] emptyList

/-- The line that shows a report. -/
def line (r : Report) : Text :=
  r.level ++ " - ".toList ++ r.origin ++ " - ".toList ++ r.message ++ ['\n']

/-- The report of reading a text of a document as a template, if it is one. -/
def ofText (text : Text) : List Report := (Template.parse text).toOption.toList.map (read .document)

/-- The reports of checking a value as the custom template. -/
def ofCustom (v : Value) : List Report := (readText v).toOption.elim [] ofText

/-- The reports of checking a value as the named templates: they are read in their order up to the
first that is none, and only if all of them are texts. -/
def ofTemplates (v : Value) : List Report :=
  match checkTexts [] v with
  | .ok templates =>
    (templates.takeWhile fun entry => Template.accepts entry.2).flatMap fun entry =>
      ofText entry.2
  | .error _ => []

/-- The reports of checking a mapping. -/
def ofChecking (data : Mapping) : List Report :=
  ((data.field? "custom").elim [] ofCustom) ++ ((data.field? "templates").elim [] ofTemplates)

/-- The reports of building settings from a mapping. A mapping with other keys than texts is not
checked at all. -/
def ofBuilding (data : Mapping) : List Report :=
  if (Settings.completed data).hasTextKeys then ofChecking (Settings.completed data) else []

/-- The report on where loaded settings are from. -/
def ofOrigin (path : Text) : FileEntry → Report
  | .absent => notFound path
  | _ => loaded path

/-- The reports of loading settings. -/
def ofLoading (path : Text) (found : FileEntry) : List Report :=
  match Settings.readFile path found with
  | .error _ => []
  | .ok data =>
    ofBuilding data ++
      match Settings.build path data with
      | .ok _ => [ofOrigin path found]
      | .error _ => []

/-- The reports of obtaining a formatter and of using it. -/
def ofFormatter (origin : Text.Origin) (f : Formatter) : List Report :=
  (match f with
    | .template t => [read origin t]
    | .preset p => p.name?.toList.map resolved) ++ [chosen origin f]

end Report

end Swatch.CommandLine
