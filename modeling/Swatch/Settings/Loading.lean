import Swatch.Settings.Builtin
import Swatch.Settings.Check
import Swatch.Workspace
import Swatch.Yaml.Document

/-!
Loading settings: from a document text, from a mapping, or from a file that need not exist. What is
given is laid over the built-in document and the whole is checked. An error of the configuration
names the source it was found in; the other failures are not reported that way.
-/
namespace Swatch

/-- Why a document cannot be used as settings. -/
inductive ConfigError where
  | malformed (source : Text)
  | notMapping (source : Text)
  | invalid (source : Text) (problems : List Problem)
  deriving DecidableEq

/-- Why loading fails: the document is no settings, one of its keys at the top is no text, a
directory was given as the file, its path is too long, or the document goes too deep or has a scalar
that names no value. -/
inductive LoadError where
  | config (e : ConfigError)
  | nonTextKey
  | directory
  | pathTooLong
  | tooDeep
  | scalar (e : Yaml.ScalarFault)
  deriving DecidableEq

namespace ConfigError

/-- The number of problems and what was checked. -/
def summary (problems : List Problem) : Text :=
  decimalText problems.length ++
    (if problems.length = 1 then " validation error" else " validation errors").toList ++
    " for Config".toList

/-- The source at fault. -/
def source : ConfigError → Text
  | malformed source => source
  | notMapping source => source
  | invalid source _ => source

/-- What is wrong with the source, without the details. -/
def complaint : ConfigError → Text
  | malformed _ => "<yaml error>".toList
  | notMapping _ => "top level must be a mapping".toList
  | invalid _ problems => summary problems

/-- The wording of the error. -/
def message (e : ConfigError) : Text := e.source ++ ':' :: ' ' :: e.complaint

/-- The problems that checking found. -/
def problems : ConfigError → List Problem
  | invalid _ problems => problems
  | _ => []

end ConfigError

/-- The wording of a refusal to give a formatter. -/
def FormatterError.message : FormatterError → Text
  | unknownTemplate name => "unknown template: ".toList ++ name
  | format e => e.message

/-- Whether every key of a mapping is a text. -/
def Mapping.hasTextKeys (data : Mapping) : Bool :=
  data.keys.all fun key => match key with
    | .text _ => true
    | _ => false

namespace Settings

/-- The mapping that a document text holds. An empty document is an empty mapping. -/
def readMapping (source text : Text) : Except LoadError Mapping :=
  match Yaml.read text with
  | .error .malformed => .error (.config (.malformed source))
  | .error .tooDeep => .error .tooDeep
  | .error (.scalar e) => .error (.scalar e)
  | .ok (.scalar .null) => .ok []
  | .ok (.mapping data) => .ok data
  | .ok _ => .error (.config (.notMapping source))

/-- What a mapping says, with the built-in document for what it leaves open. -/
def completed (data : Mapping) : Mapping := Mapping.merge builtin data

/-- The settings that a mapping from a source asks for. -/
def build (source : Text) (data : Mapping) : Except LoadError Settings :=
  if (completed data).hasTextKeys then
    (check (completed data)).mapError fun problems => .config (.invalid source problems)
  else .error .nonTextKey

/-- The settings that a document text asks for. Errors of the document and of its settings name
different sources. -/
def ofText (text : Text) : Except LoadError Settings := do
  let data ← readMapping "<string>".toList text
  build "<config>".toList data

/-- The mapping that a file holds; a file that does not exist holds an empty one. -/
def readFile (path : Text) : FileEntry → Except LoadError Mapping
  | .absent => .ok []
  | .directory => .error .directory
  | .tooLong => .error .pathTooLong
  | .text content => readMapping path content.withPlainBreaks

/-- The settings that the file found at a path asks for. -/
def load (path : Text) (found : FileEntry) : Except LoadError Settings := do
  let data ← readFile path found
  build path data

end Settings

end Swatch
