import Swatch.Text.Basic

/-!
The two ways in which a format asked for cannot be used: a custom template that breaks the grammar,
and a name that no preset has.
-/
namespace Swatch

/-- Why a format cannot be used. A malformed template comes with the position of its first element
that cannot be completed. -/
inductive FormatError where
  | malformed (template : Text) (position : Nat)
  | unknown (name : Text)
  deriving DecidableEq

namespace FormatError

/-- The text that was given as a format. -/
def value : FormatError → Text
  | malformed template _ => template
  | unknown name => name

/-- The position a template is at fault; a name is at fault from its beginning. -/
def position : FormatError → Nat
  | malformed _ position => position
  | unknown _ => 0

/-- The wording of the error, which carries no detail: the value is reported beside it. -/
def message : FormatError → Text
  | malformed _ _ => "invalid format string".toList
  | unknown _ => "invalid format".toList

end FormatError

end Swatch
