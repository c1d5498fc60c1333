import Swatch.Sample.Basic

/-!
Compactable colors: those whose six hexadecimal digits come in three pairs of equal digits, so that
three digits can stand for them.
-/
namespace Swatch

/-- Whether a number's lowest four bits equal the bits above them, as they do for a byte of two
equal hexadecimal digits. A negative number has infinitely many leading ones, so that its upper part
is negative. -/
def isCompactableChannel (value : Int) : Bool := value / 16 == value % 16

/-- Whether each of three channel values is compactable. -/
def isCompactable (red green blue : Int) : Bool :=
  isCompactableChannel red && isCompactableChannel green && isCompactableChannel blue

/-- Whether the visible channels of a sample can be written with three hexadecimal digits. -/
def Sample.isCompactable (s : Sample) : Bool :=
  Swatch.isCompactable s.red.toNat s.green.toNat s.blue.toNat

end Swatch
