import Swatch.CommandLine.Word

/-!
Reading a command line into a request. The words take effect from left to right. Only the first run
of operands names colors; operands of a later run are reported as unrecognized, and so is every word
that stands for no option.
-/
namespace Swatch.CommandLine

/-- The value of an option. A divider is taken out of the values of an option as it is out of the
operands, so that an option to which only the divider is attached is given nothing. Option parsers
differ in this between their releases: to some of them, an attached divider is a text like any
other. -/
inductive Given where
  | nothing
  | text (t : Text)
  deriving DecidableEq

/-- What a text attached to an option gives it. -/
def Given.ofText (t : Text) : Given := if t = ['-', '-'] then nothing else text t

/-- The output form asked for. At most one is, because the three ways to ask for one exclude one
another. -/
inductive Selection where
  | preset (name : Given)
  | custom (text : Given)
  | template (name : Given)
  deriving DecidableEq

/-- What a command line asks for. -/
structure Request where
  colors : List Text := []
  selection : Option Selection := none
  config : Option Given := none
  edit : Bool := false
  verbose : Bool := false
  deriving DecidableEq

/-- Why a command line is not carried out: it asks for a text about the program, or it is wrong. -/
inductive Stop where
  | help
  | version
  | usage (e : UsageError)
  deriving DecidableEq

/-- The option that makes a selection. -/
def Selection.opt : Selection → Opt
  | preset _ => .format
  | custom _ => .custom
  | template _ => .template

namespace Request

/-- A request with an output form selected, which may only replace one selected the same way. -/
def select (r : Request) (s : Selection) : Except Stop Request :=
  match r.selection with
  | some earlier =>
    if earlier.opt = s.opt then .ok { r with selection := some s }
    else .error (.usage (.conflict s.opt earlier.opt))
  | none => .ok { r with selection := some s }

/-- A request with a preset selected. -/
def selectPreset (r : Request) (name : Given) : Except Stop Request :=
  match name with
  | .nothing => r.select (.preset .nothing)
  | .text t =>
    if Preset.names.contains t then r.select (.preset (.text t))
    else .error (.usage (.unknownPreset t))

/-- The effect of an option with its value; options without one ignore it. -/
def give (r : Request) (o : Opt) (value : Given) : Except Stop Request :=
  match o with
  | .help => .error .help
  | .version => .error .version
  | .edit => .ok { r with edit := true }
  | .verbose => .ok { r with verbose := true }
  | .config => .ok { r with config := some value }
  | .custom => r.select (.custom value)
  | .template => r.select (.template value)
  | .format => r.selectPreset value

/-- The effect of options without values, in their order. -/
def flag (r : Request) (flags : List Opt) : Except Stop Request :=
  flags.foldlM (fun r o => r.give o .nothing) r

end Request

/-- How a word of options ends after its flags. -/
inductive Ending where
  | flags
  | value (o : Opt) (text : Text)
  | awaiting (o : Opt)
  deriving DecidableEq

/-- The end of a word whose last option stands without anything behind it. -/
def plainEnding (o : Opt) : List Opt × Ending :=
  if o.takesValue then ([], .awaiting o) else ([o], .flags)

/-- The end of a word whose option has a value assigned. -/
def assignedEnding (o : Opt) (text : Text) : Except UsageError (List Opt × Ending) :=
  if o.takesValue then .ok ([], .value o text) else .error (.ignoredValue o text)

/-- The flags and the end of a word in which a text is joined to a short option. The text is the
value of an option that takes one; behind a flag it has to go on with the letter of another
option. -/
def joinedEnding (o : Opt) (text : Text) : Except UsageError (List Opt × Ending) :=
  if o.takesValue then .ok ([], .value o text)
  else
    match text with
    | [] => .error (.ignoredValue o [])
    | c :: rest =>
      match Opt.ofLetter? c with
      | none => .error (.ignoredValue o (c :: rest))
      | some next => do
        let (flags, ending) ←
          if rest.isEmpty then pure (plainEnding next) else joinedEnding next rest
        return (o :: flags, ending)

/-- The flags and the end of a word of options. -/
def endingOf (o : Opt) : Attached → Except UsageError (List Opt × Ending)
  | .nothing => .ok (plainEnding o)
  | .assigned text => assignedEnding o text
  | .joined text => joinedEnding o text

/-- A command line that has been read in part. -/
structure Progress where
  request : Request := {}
  colorsGiven : Bool := false
  unrecognized : List Text := []
  deriving DecidableEq

namespace Progress

/-- The effect of a run of operands, whose first divider is no color. -/
def operands (p : Progress) (texts : List Text) : Progress :=
  if p.colorsGiven then { p with unrecognized := p.unrecognized ++ texts }
  else
    { p with request := { p.request with colors := texts.erase ['-', '-'] }, colorsGiven := true }

/-- The effect of flags that are followed by an option with its value. -/
def give (p : Progress) (flags : List Opt) (o : Opt) (value : Text) : Except Stop Progress := do
  let request ← p.request.flag flags
  return { p with request := ← request.give o (.ofText value) }

/-- The effect of flags alone. -/
def finish (p : Progress) (flags : List Opt) : Except Stop Progress := do
  return { p with request := ← p.request.flag flags }

/-- Reads the words of a command line. -/
def read (p : Progress) : List Word → Except Stop Progress
  | [] => .ok p
  | .unknown text :: rest => read { p with unrecognized := p.unrecognized ++ [text] } rest
  | .option o attached :: rest => do
    let (flags, ending) ← (endingOf o attached).mapError .usage
    match ending, rest with
    | .flags, rest => (← p.finish flags).read rest
    | .value o text, rest => (← p.give flags o text).read rest
    | .awaiting o, .operand text :: rest => (← p.give flags o text).read rest
    | .awaiting o, _ => throw (.usage (.missingValue o))
  | word :: rest =>
    let more := rest.takeWhile fun w => w.operandText?.isSome
    read (p.operands ((word :: more).filterMap Word.operandText?)) (rest.drop more.length)
termination_by words => words.length
decreasing_by all_goals (simp only [List.length_cons, List.length_drop]; omega)

end Progress

namespace Request

/-- The request of a command line that has been read to its end, unless words of it were not
recognized or it asks to edit while a preset is selected. -/
def complete (p : Progress) : Except Stop Request :=
  if !p.unrecognized.isEmpty then .error (.usage (.unrecognized p.unrecognized))
  else
    match p.request.selection with
    | some (.preset _) =>
      if p.request.edit then .error (.usage (.conflict .edit .format)) else .ok p.request
    | _ => .ok p.request

/-- The request of a command line. -/
def ofTexts (texts : List Text) : Except Stop Request := do
  let words ← (Word.ofTexts texts).mapError .usage
  let p ← Progress.read {} words
  complete p

end Request

end Swatch.CommandLine
