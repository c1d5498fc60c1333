import Swatch.Editor.Highlight
import Swatch.Editor.Line

/-!
The template editor: an edited text, a live preview of it, and a session that ends when a template
is accepted, when it is interrupted, or when the input is closed. A text is accepted only if it
spells a template. Pressing enter on any other text moves the cursor to the position of the error,
and then does nothing more until the text is edited.
-/
namespace Swatch

/-- The refusal of a text that is no template, with the cursor position it asks for. -/
structure Rejection where
  cursor : Nat
  message : Text
  deriving DecidableEq

/-- The keys of the editor. -/
inductive Key where
  | typed (c : Char)
  | backspace
  | delete
  | left
  | right
  | toStart
  | toEnd
  | kill
  | discard
  | enter
  | interrupt
  | close
  deriving DecidableEq

/-- How a session ends. -/
inductive SessionEnd where
  | accepted (template : Text)
  | interrupted
  | closed
  deriving DecidableEq

namespace Editor

/-- Refuses a text that spells no template. -/
def validate (text : Text) : Except Rejection Unit :=
  match Template.parse text with
  | .ok _ => .ok ()
  | .error e => .error ⟨e.position, e.message⟩

/-- The preview of a text: its rendering of a sample, or the wording of the error, with a space on
either side. -/
def preview (sample : Sample) (text : Text) : List Fragment :=
  match Template.parse text with
  | .ok template => [⟨none, ' ' :: template.render sample ++ [' ']⟩]
  | .error e => [⟨some .error, ' ' :: e.message ++ [' ']⟩]

/-- The state of a session: the line, and whether its text was refused since it was last edited. -/
structure State where
  line : EditLine
  refused : Bool := false
  deriving DecidableEq

/-- The state in which a session on a text begins. -/
def State.start (text : Text) : State := ⟨.ofText text, false⟩

/-- What can be seen of a session after a key. -/
structure Snapshot where
  text : Text
  cursor : Nat
  toolbar : List Fragment
  deriving DecidableEq

/-- What can be seen of a state. -/
def State.snapshot (sample : Sample) (s : State) : Snapshot :=
  ⟨s.line.text, s.line.cursor, preview sample s.line.text⟩

/-- A state with its line edited. An edit that changes nothing does not lift a refusal. -/
def State.edit (s : State) (line : EditLine) : State :=
  ⟨line, s.refused && line.text == s.line.text⟩

/-- A state with only the cursor moved. -/
def State.move (s : State) (line : EditLine) : State := ⟨line, s.refused⟩

/-- The effect of the enter key. -/
def State.enter (s : State) : State × Option SessionEnd :=
  if s.refused then (s, none)
  else match validate s.line.text with
    | .ok _ => (s, some (.accepted s.line.text))
    | .error rejection => (⟨s.line.moveTo rejection.cursor, true⟩, none)

/-- The effect of a key: the state after it, and the end of the session if it ends. -/
def State.press (s : State) : Key → State × Option SessionEnd
  | .typed c => (s.edit (s.line.insert c), none)
  | .backspace => (s.edit s.line.dropBefore, none)
  | .delete => (s.edit s.line.dropAfter, none)
  | .left => (s.move s.line.left, none)
  | .right => (s.move s.line.right, none)
  | .toStart => (s.move s.line.toStart, none)
  | .toEnd => (s.move s.line.toEnd, none)
  | .kill => (s.edit s.line.kill, none)
  | .discard => (s.edit s.line.discard, none)
  | .enter => s.enter
  | .interrupt => (s, some .interrupted)
  | .close => if s.line.text.isEmpty then (s, some .closed) else (s.edit s.line.dropAfter, none)

/-- Runs a session on the keys given: what was seen after each key, and how the session ended. Keys
after the end are left alone. When none of the keys ends it, the session waits for more of them. -/
def run (sample : Sample) (s : State) : List Key → List Snapshot × Option SessionEnd
  | [] => ([], none)
  | key :: rest =>
    match s.press key with
    | (s', some ending) => ([s'.snapshot sample], some ending)
    | (s', none) =>
      let (trace, ending) := run sample s' rest
      (s'.snapshot sample :: trace, ending)

end Editor

end Swatch
