import Swatch.CommandLine.Option
import Swatch.Text.Digit

/-!
The words of a command line. Every word is judged by itself before any of them takes effect: it is
an operand, the divider after which all words are operands, options, or nothing known. A long option
may be spelled by any beginning that no other long option shares.
-/
namespace Swatch.CommandLine

/-- What a word says after the spelling of its option. A text is assigned to a long spelling and
joined to a short one, whether or not an equals sign stands between. -/
inductive Attached where
  | nothing
  | assigned (text : Text)
  | joined (text : Text)
  deriving DecidableEq

/-- A word of a command line. -/
inductive Word where
  | operand (text : Text)
  | divider
  | option (o : Opt) (attached : Attached)
  | unknown (text : Text)
  deriving DecidableEq

/-- A text cut at its first equals sign. The second part is missing when there is no such sign. -/
def cutAtEquals (text : Text) : Text × Option Text :=
  match text.dropWhile (· != '=') with
  | [] => (text, none)
  | _ :: value => (text.takeWhile (· != '='), some value)

/-- What a value behind the equals sign of a long spelling attaches to its option. -/
def Attached.ofValue : Option Text → Attached
  | none => nothing
  | some value => assigned value

/-- What a value behind an equals sign attaches to the option with the given spelling. -/
def Attached.behind (spelling : Text) (value : Option Text) : Attached :=
  if "--".toList.isPrefixOf spelling then .ofValue value else value.elim .nothing .joined

namespace Word

/-- The options that a word which spells none of them exactly may stand for, with their spellings:
those a long word begins, or the one whose letter a short word begins with. -/
def candidates : Text → List (Text × Opt)
  | '-' :: '-' :: rest =>
    let lead := (cutAtEquals ('-' :: '-' :: rest)).1
    Opt.spelled.filter fun entry => entry.1.startsWith lead
  | '-' :: c :: _ => Opt.spelled.filter fun entry => entry.1 = ['-', c]
  | _ => []

/-- What a word attaches to the option it stands for without spelling it exactly. -/
def attachment : Text → Attached
  | '-' :: '-' :: rest => .ofValue (cutAtEquals rest).2
  | text => .joined (text.drop 2)

/-- A word that begins like an option and stands for none. Negative numbers and words with a space
are operands all the same. -/
def withoutOption (text : Text) : Word :=
  if text.isNegativeNumber || text.contains ' ' then operand text else unknown text

/-- A word that begins with a minus sign and does not end there. -/
def ofOptionText (text : Text) : Except UsageError Word :=
  let (lead, value) := cutAtEquals text
  match Opt.ofSpelling? text, Opt.ofSpelling? lead with
  | some o, _ => .ok (option o .nothing)
  | none, some o => .ok (option o (.behind lead value))
  | none, none =>
    match candidates text with
    | [] => .ok (withoutOption text)
    | [(_, o)] => .ok (option o (attachment text))
    | several => .error (.ambiguous text (several.map (·.1)))

/-- The word that a text is, before any divider. -/
def ofText (text : Text) : Except UsageError Word :=
  match text with
  | ['-', '-'] => .ok divider
  | '-' :: _ :: _ => ofOptionText text
  | _ => .ok (operand text)

/-- The words of a command line. -/
def ofTexts : List Text → Except UsageError (List Word)
  | [] => .ok []
  | text :: rest => do
    match ← ofText text with
    | divider => return divider :: rest.map operand
    | word => return word :: (← ofTexts rest)

/-- The text of an operand or of a divider. -/
def operandText? : Word → Option Text
  | operand text => some text
  | divider => some ['-', '-']
  | _ => none

end Word

end Swatch.CommandLine
