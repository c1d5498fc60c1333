import Swatch.Text.Quoted

/-!
Padding on the left. A padding has one fill character and a width of at most 65535, and it never
cuts a text that is longer than its width.
-/
namespace Swatch

/-- The greatest width of a padding. -/
def greatestPadWidth : Nat := 65535

/-- A padding on the left up to a width. -/
structure Padding where
  fill : Char
  width : Nat
  width_le : width ≤ greatestPadWidth
  deriving DecidableEq

/-- Why a fill and a width make no padding. -/
inductive PaddingError where
  | fill (found : Text)
  | width (found : Int)
  deriving DecidableEq

/-- The wording of a refused padding. -/
def PaddingError.message : PaddingError → Text
  | .fill found => "fill must be a single character: ".toList ++ found.quoted
  | .width found => "pad width out of range: ".toList ++ decimalText found

namespace Padding

/-- The padding with a given fill and width; the fill is judged first. -/
def make (fill : Text) (width : Int) : Except PaddingError Padding :=
  match fill with
  | [c] =>
    if h : 0 ≤ width ∧ width ≤ greatestPadWidth then .ok ⟨c, width.toNat, by omega⟩
    else .error (.width width)
  | _ => .error (.fill fill)

/-- A text with enough of the fill in front of it to reach the width. -/
def apply (padding : Padding) (text : Text) : Text := text.leftpad padding.width padding.fill

end Padding

/-- A text padded as asked, or as it is when no padding is asked for. -/
def Text.padded (text : Text) (padding : Option Padding) : Text :=
  match padding with
  | none => text
  | some p => p.apply text

end Swatch
