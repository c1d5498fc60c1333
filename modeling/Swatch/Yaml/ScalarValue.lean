import Swatch.Text.Base64
import Swatch.Text.Blank
import Swatch.Text.Digit
import Swatch.Text.Lowercase
import Swatch.Text.Quoted
import Swatch.Yaml.Resolution

/-!
The values of scalars of each tag. A tag that is written out need not fit the text, and a text that
has the form its tag asks for can still name no value: a date that the calendar does not have, or a
decimal number with too many digits.
-/
namespace Swatch.Yaml

/-- A fault of a scalar as a fault of its document. -/
def scalarFault {α : Type} (e : ScalarFault) : Except Fault α := .error (.scalar e)

/-- The most characters of a numeral that a message shows. -/
def shownNumeral : Nat := 200

/-- The wording of a scalar that names no value. -/
def ScalarFault.message : ScalarFault → Text
  | tooLong e => e.message
  | calendar e => e.message
  | notInteger radix text =>
    "invalid literal for int() with base ".toList ++ decimalText radix ++
      ':' :: ' ' :: (text.quotedFrom .document).take shownNumeral
  | notFloat text => "could not convert string to float: ".toList ++ text.quotedFrom .document
  | notTruth text => text.quotedFrom .document
  | notMoment text => "not a date: ".toList ++ text.quotedFrom .document
  | notOneText => "a date that is no text".toList
  | noNumeral => "string index out of range".toList
  | tooManyPlaces => "too many sexagesimal places".toList
  | codePoint => "chr() arg not in range(0x110000)".toList
  | hugeCodePoint => "code point too large".toList
  | endless => "a mapping stands for itself".toList

/-! Numerals. -/

/-- A character of a numeral in ASCII: blanks are spaces, and digits of all scripts are digits.
Nothing else outside of ASCII belongs to a numeral. -/
def numeralChar (c : Char) : Char :=
  if c.toNat < 0x80 then c
  else if isBlank c then ' '
  else (scriptDigit? c).elim '?' Base.decimal.digitChar

/-- Whether a character may stand around a numeral. -/
def isNumeralGap (c : Char) : Bool := c == ' ' || (0x09 ≤ c.toNat && c.toNat ≤ 0x0D)

/-- A numeral in ASCII, without the blanks around it. -/
def asciiNumeral (text : Text) : Text :=
  (((text.map numeralChar).dropWhile isNumeralGap).reverse.dropWhile isNumeralGap).reverse

/-- The digits behind the mark of a radix, if one stands there. -/
def withoutRadixMark (radix : Nat) : Text → Text
  | '0' :: mark :: rest =>
    let marks := if radix = 16 then ['x', 'X'] else if radix = 8 then ['o', 'O']
      else if radix = 2 then ['b', 'B'] else []
    if marks.contains mark then rest else '0' :: mark :: rest
  | text => text

/-- The whole number that a numeral of a radix denotes. It may have a sign of its own, and the mark
of its radix. Only decimal numerals are limited in length. -/
def wholeOf (radix : Nat) (text : Text) : Except Fault Int := do
  let (negative, body) := unsigned (asciiNumeral text)
  let body := withoutRadixMark radix body
  let digits := body.takeWhile fun c => (Numeral.digit? radix c).isSome
  if radix = 10 ∧ Numeral.digitLimit < digits.length then
    scalarFault (.tooLong ⟨digits.length⟩)
  else if digits.isEmpty || digits.length < body.length then scalarFault (.notInteger radix text)
  else
    let n : Int := Numeral.ofDigits radix (digits.map fun c => (Numeral.digit? radix c).getD 0)
    return if negative then -n else n

/-- The whole number that a text without underscores and without its sign denotes. -/
def unsignedOf (body : Text) : Except Fault Int :=
  match body with
  | [] => scalarFault .noNumeral
  | ['0'] => .ok 0
  | '0' :: 'b' :: digits => wholeOf 2 digits
  | '0' :: 'x' :: digits => wholeOf 16 digits
  | '0' :: _ => wholeOf 8 body
  | _ => do
    let places ← (body.pieces ':').mapM (wholeOf 10)
    return places.foldl (fun n place => n * 60 + place) 0

/-- The whole number a text denotes. -/
def intOf (text : Text) : Except Fault Int := do
  let digits := text.filter (· ≠ '_')
  if digits.isEmpty then scalarFault .noNumeral
  let (negative, body) := unsigned digits
  let n ← unsignedOf body
  return if negative then -n else n

/-- The double nearest to a decimal number in ASCII, which may have a point and an exponent. -/
def decimal? (body : Text) : Option Binary64 := do
  let whole := body.takeWhile Numeral.isDecimal
  let rest := body.drop whole.length
  let (fraction, rest) := match rest with
    | '.' :: rest => (rest.takeWhile Numeral.isDecimal, rest.dropWhile Numeral.isDecimal)
    | _ => ([], rest)
  let (negative, places) := match rest with
    | 'e' :: rest => unsigned rest
    | _ => (false, rest)
  guard !(whole ++ fraction).isEmpty
  guard (places.all Numeral.isDecimal && (rest.isEmpty || !places.isEmpty))
  let exponent := Binary64.signed negative (Numeral.decimalValue places)
  return Binary64.ofDecimal false (Numeral.decimalValue (whole ++ fraction))
    (exponent - fraction.length)

/-- The double that a numeral in lower case denotes. It may have a sign of its own. -/
def doubleOf (text : Text) : Except Fault Binary64 :=
  let (negative, body) := unsigned (asciiNumeral text)
  let x :=
    if body = "inf".toList ∨ body = "infinity".toList then some (Binary64.infinite false)
    else if body = "nan".toList then some .nan
    else decimal? body
  x.elim (scalarFault (.notFloat text)) fun x => .ok (if negative then x.negated else x)

/-- The most sexagesimal places of a double: the next power of sixty is none. -/
def placeLimit : Nat := 174

/-- The double that sexagesimal places denote: each place times its power of sixty, summed from the
last place to the first with every product and every sum rounded. -/
def sexagesimalOf (places : List Binary64) : Except Fault Binary64 :=
  if placeLimit < places.length then scalarFault .tooManyPlaces
  else
    let zero := Binary64.ofRatio false 0 1
    .ok (places.reverse.foldl
      (fun (sum, factor) place => (sum.plus (place.scaled factor), factor * 60)) (zero, 1)).1

/-- The double a text denotes. -/
def floatOf (text : Text) : Except Fault Binary64 := do
  let digits := Text.lowercased (text.filter (· ≠ '_'))
  if digits.isEmpty then scalarFault .noNumeral
  let (negative, body) := unsigned digits
  let x ←
    if body = ".inf".toList then pure (Binary64.infinite false)
    else if body = ".nan".toList then pure Binary64.nan
    else if body.contains ':' then do sexagesimalOf (← (body.pieces ':').mapM doubleOf)
    else doubleOf body
  return if negative then x.negated else x

/-! Dates, truth values and bytes. -/

/-- The date or moment a text denotes. A fraction of a second counts to the microsecond. -/
def timestampOf (text : Text) : Except Fault Scalar := do
  let some m := momentText? (withoutFinalBreak text) | scalarFault (.notMoment text)
  let number := Numeral.decimalValue
  let (year, month, day) := (number m.year, number m.month, number m.day)
  let made : Except CalendarError Scalar :=
    match m.clock with
    | none => (Date.make year month day).map .date
    | some (hour, minute, second) =>
      let micro := number ((m.fraction ++ List.replicate 6 '0').take 6)
      let offset : Option Int := match m.zone with
        | some (negative, hours, minutes) =>
          let span : Int := (number hours * 60 + number minutes : Nat)
          some (if negative then -span else span)
        | none => if m.universal then some 0 else none
      (Moment.make year month day (number hour) (number minute) (number second) micro offset).map
        .moment
  made.mapError fun e => .scalar (.calendar e)

/-- The truth value a text spells, in any case. -/
def boolOf (text : Text) : Except Fault Bool :=
  match truthValues.lookup (String.ofList text.lowercased) with
  | some b => .ok b
  | none => scalarFault (.notTruth text.lowercased)

/-- The value of a scalar. -/
def scalarOf (tag : Tag) (text : Text) : Except Fault Scalar :=
  match tag with
  | .null => .ok .null
  | .bool => (boolOf text).map .bool
  | .int => (intOf text).map .int
  | .float => (floatOf text).map .float
  | .timestamp => timestampOf text
  | .text => .ok (.text text)
  | .binary => (Base64.decode? text).elim (.error .malformed) fun bytes => .ok (.bytes bytes)
  | _ => .error .malformed

end Swatch.Yaml
