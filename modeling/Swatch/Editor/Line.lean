import Swatch.Text.Basic

/-!
An edited text with a cursor, as what stands before the cursor and what stands after it. The cursor
is thus never outside the text, and every edit that has nothing to do leaves the text as it is. A
text may have several lines; the cursor moves within one of them, and only taking out a line break
brings it to another.
-/
namespace Swatch

/-- An edited text with a cursor. -/
structure EditLine where
  before : Text
  after : Text
  deriving DecidableEq

namespace EditLine

/-- The whole text. -/
def text (line : EditLine) : Text := line.before ++ line.after

/-- The number of characters before the cursor. -/
def cursor (line : EditLine) : Nat := line.before.length

/-- A text with the cursor at its end. -/
def ofText (text : Text) : EditLine := ⟨text, []⟩

/-- The same text with the cursor at a position, or at the end if the text is shorter. -/
def moveTo (line : EditLine) (position : Nat) : EditLine :=
  ⟨line.text.take position, line.text.drop position⟩

/-- The part of the cursor's line before the cursor. -/
def lineBefore (line : EditLine) : Text := (line.before.reverse.takeWhile (· ≠ '\n')).reverse

/-- The part of the cursor's line after the cursor. -/
def lineAfter (line : EditLine) : Text := line.after.takeWhile (· ≠ '\n')

/-- The cursor one character to the left, unless its line begins there. -/
def left (line : EditLine) : EditLine := line.moveTo (line.cursor - min 1 line.lineBefore.length)

/-- The cursor one character to the right, unless its line ends there. -/
def right (line : EditLine) : EditLine := line.moveTo (line.cursor + min 1 line.lineAfter.length)

/-- The cursor at the start of its line. -/
def toStart (line : EditLine) : EditLine := line.moveTo (line.cursor - line.lineBefore.length)

/-- The cursor at the end of its line. -/
def toEnd (line : EditLine) : EditLine := line.moveTo (line.cursor + line.lineAfter.length)

/-- A character put in before the cursor. -/
def insert (line : EditLine) (c : Char) : EditLine := ⟨line.before ++ [c], line.after⟩

/-- The character before the cursor taken out. -/
def dropBefore (line : EditLine) : EditLine := ⟨line.before.dropLast, line.after⟩

/-- The character after the cursor taken out. -/
def dropAfter (line : EditLine) : EditLine := ⟨line.before, line.after.drop 1⟩

/-- The rest of the line taken out, or the line break that stands at the cursor. -/
def kill (line : EditLine) : EditLine :=
  ⟨line.before, line.after.drop (max 1 line.lineAfter.length)⟩

/-- The part of the line before the cursor taken out, or the line break that stands there. -/
def discard (line : EditLine) : EditLine :=
  ⟨line.before.take (line.cursor - max 1 line.lineBefore.length), line.after⟩

/-- The cursor is never outside the text. -/
theorem cursor_le (line : EditLine) : line.cursor ≤ line.text.length := by
  simp [cursor, text]

@[simp] theorem text_ofText (t : Text) : (ofText t).text = t := by simp [ofText, text]

@[simp] theorem text_moveTo (line : EditLine) (position : Nat) :
    (line.moveTo position).text = line.text := by
  simp [moveTo, text]

/-- A position beyond the text counts as its end. -/
@[simp] theorem cursor_moveTo (line : EditLine) (position : Nat) :
    (line.moveTo position).cursor = min position line.text.length := by
  simp [moveTo, cursor]

@[simp] theorem text_left (line : EditLine) : line.left.text = line.text := by simp [left]

@[simp] theorem text_right (line : EditLine) : line.right.text = line.text := by simp [right]

@[simp] theorem text_toStart (line : EditLine) : line.toStart.text = line.text := by
  simp [toStart]

@[simp] theorem text_toEnd (line : EditLine) : line.toEnd.text = line.text := by simp [toEnd]

@[simp] theorem text_insert (line : EditLine) (c : Char) :
    (line.insert c).text = line.before ++ c :: line.after := by
  simp [insert, text]

end EditLine

end Swatch
