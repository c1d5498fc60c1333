import Swatch.CommandLine.Help
import Swatch.CommandLine.Request
import Swatch.Editor.Session
import Swatch.Editor.Style
import Swatch.Settings.Loading

/-!
What a run leaves behind. A run that fails either shows one error message and exits, or it is
stopped by a failure that no message is made for.
-/
namespace Swatch.CommandLine

/-- Why a run fails: it has no settings, no formatter or no samples, an option it depends on was
given nothing, its editing session cannot begin or ends without a template, or a line that it prints
holds a character which its output has no encoding for. -/
inductive RunError where
  | loading (e : LoadError)
  | choice (e : ChoiceError)
  | formatter (e : FormatterError)
  | color (e : ColorError)
  | givenNothing (o : Opt)
  | style (e : StyleError)
  | interrupted
  | inputClosed
  | unencodable (line : Text)
  deriving DecidableEq

/-- How a run ends: with a code, or with a failure that no message is made for. A run whose editing
session was not ended by its keys waits for more of them. -/
inductive RunEnd where
  | exit (code : Nat)
  | escaped (why : RunError)
  | waiting
  deriving DecidableEq

/-- What a run leaves behind: its end, what it printed, what it told about itself, and what was seen
in the editor. -/
structure Outcome where
  ending : RunEnd
  output : Text := []
  diagnostics : Text := []
  trace : List Editor.Snapshot := []
  deriving DecidableEq

/-- Prints lines one after the other: what is printed, and the first line that holds a character
which the output cannot take. Nothing is printed of that line. -/
def printLines (takes : Char → Bool) : List Text → Text × Option Text
  | [] => ([], none)
  | line :: rest =>
    if line.all takes then
      let (printed, refused) := printLines takes rest
      (line ++ '\n' :: printed, refused)
    else ([], some line)

/-- What is shown of an unusable format: what is wrong with it, and the format itself. -/
def shownFormat (e : FormatError) : Text := e.message ++ ':' :: ' ' :: e.value

namespace RunError

/-- The error message, for the failures that have one. -/
def message? : RunError → Option Text
  | loading (.config e) => some ("Error loading configuration: ".toList ++ e.message)
  | choice (.format e) => some ("Error: ".toList ++ shownFormat e)
  | formatter (.format e) => some ("Error: ".toList ++ shownFormat e)
  | formatter e => some ("Error: ".toList ++ e.message)
  | color (.invalid text) => some ("Error: ".toList ++ (ColorError.invalid text).message)
  | _ => none

/-- The line that a failure shows. -/
def line (e : RunError) : Text := e.message?.elim [] fun message => message ++ ['\n']

/-- How a run ends with a failure. -/
def ending (e : RunError) : RunEnd :=
  if e = interrupted then .exit 130
  else if e.message?.isSome then .exit 1
  else .escaped e

end RunError

namespace Outcome

/-- The outcome of a run that prints lines on an output which takes some characters. -/
def ofLines (takes : Char → Bool) (reports : Text) (trace : List Editor.Snapshot)
    (lines : List Text) : Outcome :=
  let (printed, refused) := printLines takes lines
  ⟨refused.elim (.exit 0) fun line => (RunError.unencodable line).ending, printed, reports, trace⟩

/-- The outcome of a run with its reports, its trace and its result, which is the lines that it has
to print. There is none while an editing session waits. -/
def ofResult (takes : Char → Bool) (reports : Text) (trace : List Editor.Snapshot) :
    Option (Except RunError (List Text)) → Outcome
  | none => ⟨.waiting, [], reports, trace⟩
  | some (.ok lines) => ofLines takes reports trace lines
  | some (.error e) => ⟨e.ending, [], reports ++ e.line, trace⟩

/-- The outcome of a command line that is not carried out. -/
def ofStop : Stop → Outcome
  | .help => { ending := .exit 0, output := helpText }
  | .version => { ending := .exit 0, output := versionText }
  | .usage e =>
    { ending := .exit 2
      diagnostics := programName ++ ": error: ".toList ++ e.message ++ ['\n'] }

end Outcome

end Swatch.CommandLine
