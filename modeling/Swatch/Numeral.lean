import Swatch.Text.Basic

/-!
Numerals: the digits of a natural number in a radix, the five bases a number may be written in, and
the reading of numerals back. A number is written with the fewest digits, so zero has one digit and
no other numeral begins with a zero. There is a limit to the number of decimal digits that are read
or written, and none to the digits in the other bases.
-/
namespace Swatch

namespace Numeral

/-- The digits of a number, the most significant first, put in front of the digits given. A radix
below two has no numerals; the number then stands as one digit. -/
def digitsOnto (radix n : Nat) (digits : List Nat) : List Nat :=
  if n < radix ∨ radix < 2 then n :: digits
  else digitsOnto radix (n / radix) (n % radix :: digits)
termination_by n
decreasing_by exact Nat.div_lt_self (by omega) (by omega)

/-- The digits of a number in a radix, the most significant first. -/
def digits (radix n : Nat) : List Nat := digitsOnto radix n []

/-- The number that a list of digits denotes, the most significant first. -/
def ofDigits (radix : Nat) (ds : List Nat) : Nat := ds.foldl (fun n d => n * radix + d) 0

/-- The value of a character as a digit; letters of either case stand for ten to fifteen. -/
def digitValue? (c : Char) : Option Nat :=
  let n := c.toNat
  if 0x30 ≤ n ∧ n ≤ 0x39 then some (n - 0x30)
  else if 0x61 ≤ n ∧ n ≤ 0x66 then some (n - 0x57)
  else if 0x41 ≤ n ∧ n ≤ 0x46 then some (n - 0x37)
  else none

/-- The value of a character as a digit of a radix of at most sixteen. -/
def digit? (radix : Nat) (c : Char) : Option Nat := (digitValue? c).filter (· < radix)

/-- Whether a character is one of the ten decimal digits. -/
def isDecimal (c : Char) : Bool := (digit? 10 c).isSome

/-- Whether a character is a hexadecimal digit of either case. -/
def isHex (c : Char) : Bool := (digit? 16 c).isSome

/-- The number a text denotes in a radix. A text that is empty, or that holds anything but digits of
that radix, denotes none. -/
def read? (radix : Nat) (text : Text) : Option Nat :=
  if text.isEmpty then none else (text.mapM (digit? radix)).map (ofDigits radix)

/-- The number that decimal digits denote; characters that are no digits count as zeros. -/
def decimalValue (text : Text) : Nat := ofDigits 10 (text.map fun c => (digit? 10 c).getD 0)

/-- The most decimal digits that are turned into a number, leading zeros included, and the most that
a number is written with. -/
def digitLimit : Nat := 4300

/-- The wording of a refusal for exceeding the limit of digits. -/
def limitMessage (details : Text) : Text :=
  "Exceeds the limit (4300 digits) for integer string conversion".toList ++ details ++
    "; use sys.set_int_max_str_digits() to increase the limit".toList

/-- The refusal to write an integer that has more decimal digits than the limit. -/
structure Unwritable where
  value : Int
  deriving DecidableEq

/-- The wording of that refusal. The number of digits is not told. -/
def Unwritable.message (_ : Unwritable) : Text := limitMessage []

end Numeral

/-- The bases a number may be written in. The two hexadecimal ones differ in the case of their
letters. -/
inductive Base where
  | lowerHex
  | upperHex
  | decimal
  | octal
  | binary
  deriving DecidableEq

namespace Base

/-- The number of digits a base has. -/
def radix : Base → Nat
  | lowerHex => 16
  | upperHex => 16
  | decimal => 10
  | octal => 8
  | binary => 2

/-- The letter that selects a base. -/
def letter : Base → Char
  | lowerHex => 'h'
  | upperHex => 'H'
  | decimal => 'd'
  | octal => 'o'
  | binary => 'B'

/-- The base a letter selects. -/
def ofLetter? : Char → Option Base
  | 'h' => some lowerHex
  | 'H' => some upperHex
  | 'd' => some decimal
  | 'o' => some octal
  | 'B' => some binary
  | _ => none

/-- The character for a digit of a base. -/
def digitChar (base : Base) (d : Nat) : Char :=
  if d < 10 then Char.ofNat (0x30 + d)
  else if base = upperHex then Char.ofNat (0x37 + d)
  else Char.ofNat (0x57 + d)

/-- The fewest digits that a natural number takes in a base, however many these are. -/
def numeral (base : Base) (n : Nat) : Text := (Numeral.digits base.radix n).map base.digitChar

/-- The digits of an integer, after a minus sign when it is negative. -/
def signed (base : Base) (value : Int) : Text :=
  if value < 0 then '-' :: base.numeral value.natAbs else base.numeral value.natAbs

/-- An integer written out. In decimal there may be no more digits than the limit, to which the
minus sign does not count. -/
def render (base : Base) (value : Int) : Except Numeral.Unwritable Text :=
  if base = decimal ∧ Numeral.digitLimit < (base.numeral value.natAbs).length then .error ⟨value⟩
  else .ok (base.signed value)

@[simp] theorem ofLetter?_letter (base : Base) : ofLetter? base.letter = some base := by
  cases base <;> rfl

theorem letter_of_ofLetter? {c : Char} {base : Base} (h : ofLetter? c = some base) :
    base.letter = c := by
  unfold ofLetter? at h
  split at h <;> simp_all [letter] <;> (subst h; rfl)

theorem two_le_radix (base : Base) : 2 ≤ base.radix := by cases base <;> decide

end Base

/-- The decimal digits of an integer, after a minus sign when it is negative. -/
def decimalText (value : Int) : Text := Base.decimal.signed value

/-- A number in lower-case hexadecimal with leading zeros up to a width. -/
def fixedHex (width n : Nat) : Text := (Base.lowerHex.numeral n).leftpad width '0'

namespace Numeral

/-- The refusal to read a numeral that has more decimal digits than the limit. -/
structure TooLong where
  digits : Nat
  deriving DecidableEq

/-- The wording of that refusal. -/
def TooLong.message (e : TooLong) : Text :=
  limitMessage (": value has ".toList ++ decimalText e.digits ++ " digits".toList)

/-- The number that decimal digits denote, unless there are more of them than the limit. -/
def readDecimal (text : Text) : Except TooLong Nat :=
  if text.length ≤ digitLimit then .ok (decimalValue text) else .error ⟨text.length⟩

end Numeral

end Swatch
