import Swatch.Preset
import Swatch.Text.Quoted

/-!
The options of the command line, and the errors in its use.
-/
namespace Swatch.CommandLine

/-- An option of the command line. -/
inductive Opt where
  | help
  | format
  | custom
  | template
  | config
  | edit
  | verbose
  | version
  deriving DecidableEq

namespace Opt

/-- The options in the order in which they are listed. -/
def all : List Opt := [help, format, custom, template, config, edit, verbose, version]

theorem mem_all (o : Opt) : o ∈ all := by cases o <;> simp [all]

/-- The spellings of an option. A short one is a minus sign and a letter, a long one has two signs
in front. -/
def spellings : Opt → List Text
  | help => ["-h".toList, "--help".toList]
  | format => ["--format".toList, "-f".toList]
  | custom => ["--custom".toList, "-c".toList]
  | template => ["--template".toList, "-t".toList]
  | config => ["--config".toList]
  | edit => ["--edit".toList, "-e".toList]
  | verbose => ["--verbose".toList, "-v".toList]
  | version => ["--version".toList, "-V".toList]

/-- The name of an option in messages. -/
def title (o : Opt) : Text := Text.joined ['/'] o.spellings

/-- Whether an option has a value. -/
def takesValue : Opt → Bool
  | format => true
  | custom => true
  | template => true
  | config => true
  | _ => false

/-- Every spelling with its option, in the order of the list. -/
def spelled : List (Text × Opt) :=
  all.flatMap fun o => o.spellings.map fun spelling => (spelling, o)

/-- The option with exactly the given spelling. -/
def ofSpelling? (text : Text) : Option Opt := spelled.lookup text

/-- The option with the given letter. -/
def ofLetter? (c : Char) : Option Opt := ofSpelling? ['-', c]

end Opt

/-- An error in the use of the command line. -/
inductive UsageError where
  | ambiguous (word : Text) (candidates : List Text)
  | missingValue (o : Opt)
  | ignoredValue (o : Opt) (value : Text)
  | unknownPreset (name : Text)
  | conflict (later earlier : Opt)
  | unrecognized (words : List Text)
  deriving DecidableEq

/-- The wording of a usage error. -/
def UsageError.message : UsageError → Text
  | ambiguous word candidates =>
    "ambiguous option: ".toList ++ word ++ " could match ".toList ++
      Text.joined ", ".toList candidates
  | missingValue o => "argument ".toList ++ o.title ++ ": expected one argument".toList
  | ignoredValue o value =>
    "argument ".toList ++ o.title ++ ": ignored explicit argument ".toList ++ value.quoted
  | unknownPreset name =>
    "argument ".toList ++ Opt.format.title ++ ": invalid choice: ".toList ++ name.quoted ++
      " (choose from ".toList ++ Text.joined ", ".toList (Preset.names.map Text.quoted) ++ [')']
  | conflict later earlier =>
    "argument ".toList ++ later.title ++ ": not allowed with argument ".toList ++ earlier.title
  | unrecognized words => "unrecognized arguments: ".toList ++ Text.joined [' '] words

end Swatch.CommandLine
