import Swatch.Numeral
import Swatch.Text.Printable
import Swatch.Text.Surrogate

/-!
Quoted texts, the form in which messages show a text. The marks are single quotes unless the text
holds one and no double quote. Between them the mark and the backslash are escaped, the usual three
controls by name, and every other character that is not printable by its number. In the text of a
document that is the number of a half for the characters that stand for one. Bytes are shown like
the characters with their numbers, except that only ASCII is printable and that a letter stands in
front.
-/
namespace Swatch

namespace Text

/-- The mark that goes around a text in its quoted form. -/
def quoteMark (text : Text) : Char :=
  if text.contains '\'' && !text.contains '"' then '"' else '\''

/-- A number as an escape, in the shortest of the three fixed widths that hold it. -/
def numberedEscape (n : Nat) : Text :=
  if n < 0x100 then '\\' :: 'x' :: fixedHex 2 n
  else if n < 0x10000 then '\\' :: 'u' :: fixedHex 4 n
  else '\\' :: 'U' :: fixedHex 8 n

/-- A character as it stands between two marks, if characters have the numbers given. -/
def escaped (number : Char → Nat) (mark c : Char) : Text :=
  if c = mark ∨ c = '\\' then ['\\', c]
  else if c = '\n' then ['\\', 'n']
  else if c = '\r' then ['\\', 'r']
  else if c = '\t' then ['\\', 't']
  else if isPrintable c then [c]
  else numberedEscape (number c)

/-- A text between its marks, if characters have the numbers given. -/
def quotedBy (number : Char → Nat) (text : Text) : Text :=
  let mark := text.quoteMark
  mark :: text.flatMap (escaped number mark) ++ [mark]

/-- A text between its marks. -/
def quoted (text : Text) : Text := text.quotedBy Char.toNat

/-- Bytes between their marks. -/
def quotedBytes (bytes : List UInt8) : Text :=
  let text : Text := bytes.map fun b => Char.ofNat b.toNat
  let mark := text.quoteMark
  let shown := text.flatMap fun c =>
    if c.toNat < 0x80 then escaped Char.toNat mark c else numberedEscape c.toNat
  'b' :: mark :: shown ++ [mark]

/-- Where a text is from. Only a text from a document may hold halves of surrogate pairs. -/
inductive Origin where
  | argument
  | document
  deriving DecidableEq

/-- A text from somewhere between its marks. -/
def quotedFrom : Origin → Text → Text
  | .argument, text => text.quoted
  | .document, text => text.quotedBy codeOrHalf

end Text

end Swatch
