import Swatch.Sample.Basic

/-!
The visible channels a template can show, and the letters that select them.
-/
namespace Swatch

/-- A visible channel of a sample. -/
inductive Channel where
  | red
  | green
  | blue
  deriving DecidableEq

namespace Channel

/-- The letter that selects a channel. -/
def letter : Channel → Char
  | red => 'r'
  | green => 'g'
  | blue => 'b'

/-- The channel a letter selects. -/
def ofLetter? : Char → Option Channel
  | 'r' => some red
  | 'g' => some green
  | 'b' => some blue
  | _ => none

@[simp] theorem ofLetter?_letter (channel : Channel) : ofLetter? channel.letter = some channel := by
  cases channel <;> rfl

theorem letter_of_ofLetter? {c : Char} {channel : Channel} (h : ofLetter? c = some channel) :
    channel.letter = c := by
  unfold ofLetter? at h
  split at h <;> simp_all [letter] <;> (subst h; rfl)

end Channel

/-- The value of a channel in a sample. -/
def Sample.channel (s : Sample) : Channel → UInt8
  | .red => s.red
  | .green => s.green
  | .blue => s.blue

/-- The refusal of a text that selects nothing of a kind: no channel, or no base. -/
inductive SelectorError where
  | channel (text : Text)
  | base (text : Text)
  deriving DecidableEq

/-- The wording of a refused selector. -/
def SelectorError.message : SelectorError → Text
  | .channel text => text.quoted ++ " is not a valid Channel".toList
  | .base text => text.quoted ++ " is not a valid NumberBase".toList

/-- The channel that a text of one letter selects. -/
def Channel.select (text : Text) : Except SelectorError Channel :=
  match text with
  | [c] => (ofLetter? c).elim (.error (.channel text)) .ok
  | _ => .error (.channel text)

/-- The base that a text of one letter selects. -/
def Base.select (text : Text) : Except SelectorError Base :=
  match text with
  | [c] => (ofLetter? c).elim (.error (.base text)) .ok
  | _ => .error (.base text)

end Swatch
