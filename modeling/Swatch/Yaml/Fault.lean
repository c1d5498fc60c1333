import Swatch.Calendar

/-!
The ways in which a document text yields no value. A text that breaks the rules of the format is
malformed; a scalar that has the form of a number, a date or an escape but names none is a fault of
its own.
-/
namespace Swatch.Yaml

/-- Why a scalar of a recognised form names no value. -/
inductive ScalarFault where
  | tooLong (e : Numeral.TooLong)
  | calendar (e : CalendarError)
  | notInteger (radix : Nat) (text : Text)
  | notFloat (text : Text)
  | notTruth (text : Text)
  | notMoment (text : Text)
  | notOneText
  | noNumeral
  | tooManyPlaces
  | codePoint
  | hugeCodePoint
  | endless
  deriving DecidableEq

/-- Why a text yields no document. Collections lie in each other only down to some depth. -/
inductive Fault where
  | malformed
  | tooDeep
  | scalar (e : ScalarFault)
  deriving DecidableEq

end Swatch.Yaml
