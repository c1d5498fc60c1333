import Swatch.Text.Basic

/-!
Blank characters, texts freed of them at both ends, and the words between them. The class is the one
used throughout for colors and for lines of input: the Unicode white space together with the four
information separators U+001C to U+001F.
-/
namespace Swatch

/-- The characters that carry no content at either end of a color or of an input line. -/
def isBlank (c : Char) : Bool :=
  let n := c.toNat
  (0x09 ≤ n && n ≤ 0x0D) || (0x1C ≤ n && n ≤ 0x20) || n == 0x85 || n == 0xA0 || n == 0x1680 ||
    (0x2000 ≤ n && n ≤ 0x200A) || n == 0x2028 || n == 0x2029 || n == 0x202F || n == 0x205F ||
    n == 0x3000

namespace Text

/-- A text without the blanks before its first and after its last other character. -/
def trim (text : Text) : Text :=
  ((text.dropWhile isBlank).reverse.dropWhile isBlank).reverse

/-- The words of a text, which blanks separate. -/
def words (text : Text) : List Text :=
  (pieces ' ' (text.map fun c => if isBlank c then ' ' else c)).filter fun word => !word.isEmpty

end Text

end Swatch
