import Swatch.Editor.Session

/-!
The keys that characters stand for when a session is driven by a stream of characters. Control
characters have their usual meaning on an edited line; every other character types itself.
-/
namespace Swatch

/-- The control characters with a meaning. -/
def Key.controls : List (Nat × Key) := [
  (0x01, toStart), (0x02, left), (0x03, interrupt), (0x04, close), (0x05, toEnd), (0x06, right),
  (0x08, backspace), (0x0A, enter), (0x0B, kill), (0x0D, enter), (0x15, discard),
  (0x7F, backspace)]

/-- The key that a character stands for. -/
def Key.ofChar (c : Char) : Key := (controls.lookup c.toNat).getD (typed c)

/-- The keys that a stream of characters stands for. -/
def Key.ofText (text : Text) : List Key := text.map ofChar

end Swatch
