import Swatch.Yaml.Fault

/-!
The characters of a document with their places. Lines and columns govern the structure of a
document, so every character carries its own; reading then is recursion on a list of such cells. All
plain line breaks appear as a line feed; only the two Unicode separators keep their identity.
-/
namespace Swatch.Yaml

/-- A character of a document and its place in it. -/
structure Cell where
  char : Char
  index : Nat
  line : Nat
  column : Nat
  deriving DecidableEq

/-- Whether a character may stand in a document at all. -/
def isAllowed (c : Char) : Bool :=
  let n := c.toNat
  n == 0x09 || n == 0x0A || n == 0x0D || (0x20 ≤ n && n ≤ 0x7E) || n == 0x85 ||
    (0xA0 ≤ n && n ≤ 0xD7FF) || (0xE000 ≤ n && n ≤ 0xFFFD) || 0x10000 ≤ n

/-- The mark that may open a document. Wherever it stands it takes up no column. -/
def byteOrderMark : Char := '\uFEFF'

/-- The cells of a text from a place on. -/
def cellsFrom (index line column : Nat) : Text → List Cell
  | [] => []
  | '\r' :: '\n' :: rest => ⟨'\n', index, line, column⟩ :: cellsFrom (index + 2) (line + 1) 0 rest
  | c :: rest =>
    if c = '\n' ∨ c = '\r' ∨ c = '\u0085' then
      ⟨'\n', index, line, column⟩ :: cellsFrom (index + 1) (line + 1) 0 rest
    else if c = '\u2028' ∨ c = '\u2029' then
      ⟨c, index, line, column⟩ :: cellsFrom (index + 1) (line + 1) 0 rest
    else
      ⟨c, index, line, column⟩ ::
        cellsFrom (index + 1) line (if c = byteOrderMark then column else column + 1) rest

/-- The cells of a document without the mark that opens it, if every character is allowed. -/
def cells (text : Text) : Except Fault (List Cell) :=
  if text.all isAllowed then
    let all := cellsFrom 0 0 0 text
    .ok (if text.head? = some byteOrderMark then all.drop 1 else all)
  else .error .malformed

/-- The next character. -/
def next? (cells : List Cell) : Option Char := cells.head?.map Cell.char

/-- Whether a cell breaks the line. -/
def Cell.isBreak (c : Cell) : Bool := c.char == '\n' || c.char == '\u2028' || c.char == '\u2029'

/-- Whether a cell is a space. -/
def Cell.isSpace (c : Cell) : Bool := c.char == ' '

/-- Whether a cell is a space or a tab. -/
def Cell.isGap (c : Cell) : Bool := c.char == ' ' || c.char == '\t'

/-- Whether the line ends here, at a break or with the document. -/
def atLineEnd (cells : List Cell) : Bool := cells.head?.all Cell.isBreak

/-- Whether the line ends here or a space follows. -/
def atSpaceOrEnd (cells : List Cell) : Bool :=
  cells.head?.all fun c => c.isSpace || c.isBreak

/-- Whether the line ends here or a space or a tab follows. -/
def atGapOrEnd (cells : List Cell) : Bool := cells.head?.all fun c => c.isGap || c.isBreak

/-- Whether a marker of three dashes or three points, which separates documents, stands here. Only
the start of a line is asked about. -/
def atMarker (mark : Char) : List Cell → Bool
  | a :: b :: c :: rest => a.char == mark && b.char == mark && c.char == mark && atGapOrEnd rest
  | _ => false

/-- Whether either separator of documents stands here. -/
def atSeparator (cells : List Cell) : Bool := atMarker '-' cells || atMarker '.' cells

/-- The characters of cells. -/
def textOf (cells : List Cell) : Text := cells.map Cell.char

/-- The cells behind the spaces that stand here. -/
def skipSpaces (cells : List Cell) : List Cell := cells.dropWhile Cell.isSpace

/-- The cells from the end of this line on. -/
def skipToBreak (cells : List Cell) : List Cell := cells.dropWhile fun c => !c.isBreak

/-- The cells of the next line, if nothing but spaces and a comment is left of this one. -/
def skipLineEnd (cells : List Cell) : Except Fault (List Cell) :=
  let rest := skipSpaces cells
  let rest := if next? rest = some '#' then skipToBreak rest else rest
  if atLineEnd rest then .ok (rest.drop 1) else .error .malformed

/-- Whether a character may stand in a name. -/
def isNameChar (c : Char) : Bool :=
  ('0' ≤ c && c ≤ '9') || ('A' ≤ c && c ≤ 'Z') || ('a' ≤ c && c ≤ 'z') || c == '-' || c == '_'

/-- The name that stands here and the cells behind it. -/
def takeName (cells : List Cell) : Text × List Cell :=
  (textOf (cells.takeWhile fun c => isNameChar c.char),
    cells.dropWhile fun c => isNameChar c.char)

end Swatch.Yaml
