import Swatch.Document.Value
import Swatch.Yaml.Node

/-!
What plain scalars stand for. The form of a text decides whether it is a truth value, a number, a
date or nothing at all; every other text stands for itself. Underscores between digits do not count,
a leading zero makes an octal number, and colons separate sexagesimal places.
-/
namespace Swatch.Yaml

/-- A text without its sign, and whether that was a minus. -/
def unsigned : Text → Bool × Text
  | '-' :: rest => (true, rest)
  | '+' :: rest => (false, rest)
  | text => (false, text)

/-- Whether a text is not empty and consists of underscores and digits of a radix. -/
def isDigitRun (radix : Nat) (text : Text) : Bool :=
  !text.isEmpty && text.all fun c => c == '_' || (Numeral.digit? radix c).isSome

/-- Whether a text is a digit run that begins with a digit. -/
def isNumberRun (text : Text) : Bool :=
  isDigitRun 10 text && text.head?.any Numeral.isDecimal

/-- Whether a text is a sexagesimal place: a number below sixty of one or two digits. -/
def isSexagesimalPlace : Text → Bool
  | [a] => Numeral.isDecimal a
  | [a, b] => Numeral.isDecimal a && a ≤ '5' && Numeral.isDecimal b
  | _ => false

/-- Whether a text is a number followed by sexagesimal places. -/
def isSexagesimal (text : Text) : Bool :=
  match text.pieces ':' with
  | first :: place :: places => isNumberRun first && (place :: places).all isSexagesimalPlace
  | _ => false

/-- Whether a text has the form of a whole number. -/
def isInt (text : Text) : Bool :=
  match (unsigned text).2 with
  | '0' :: 'b' :: digits => isDigitRun 2 digits
  | '0' :: 'x' :: digits => isDigitRun 16 digits
  | '0' :: digits => digits.isEmpty || isDigitRun 8 digits
  | body => isNumberRun body || isSexagesimal body

/-- A text cut at its first point, if it has one. -/
def atPoint? (text : Text) : Option (Text × Text) :=
  match text.dropWhile (· ≠ '.') with
  | [] => none
  | _ :: fraction => some (text.takeWhile (· ≠ '.'), fraction)

/-- Whether a text has the form of an exponent: nothing, or a letter, a sign and digits. -/
def isExponent : Text → Bool
  | [] => true
  | e :: sign :: digits =>
    (e == 'e' || e == 'E') && (sign == '+' || sign == '-') && !digits.isEmpty &&
      digits.all Numeral.isDecimal
  | _ => false

/-- Whether a text is a fraction: digits and underscores, with an exponent if it may have one. -/
def isFraction (text : Text) : Bool :=
  isExponent (text.dropWhile fun c => c == '_' || Numeral.isDecimal c)

/-- Whether a text has the form of a number with a point, an infinity or no number. -/
def isFloat (text : Text) : Bool :=
  let (_, body) := unsigned text
  if ["nan", "NaN", "NAN"].any fun name => text = '.' :: name.toList then true
  else if ["inf", "Inf", "INF"].any fun name => body = '.' :: name.toList then true
  else match atPoint? body with
    | none => false
    | some ([], fraction) =>
      text.head? == some '.' && fraction.head?.any Numeral.isDecimal && isFraction fraction
    | some (whole, fraction) =>
      (isNumberRun whole && isFraction fraction) ||
        (isSexagesimal whole && (fraction.isEmpty || isDigitRun 10 fraction))

/-- The parts of a date or a moment as they are written. -/
structure MomentText where
  year : Text
  month : Text
  day : Text
  clock : Option (Text × Text × Text)
  fraction : Text
  zone : Option (Bool × Text × Text)
  universal : Bool

/-- One or two digits at the front of a text. -/
def takeShort (text : Text) : Option (Text × Text) :=
  let digits := (text.take 2).takeWhile Numeral.isDecimal
  if digits.isEmpty then none else some (digits, text.drop digits.length)

/-- Exactly so many digits at the front of a text. -/
def takeExact (count : Nat) (text : Text) : Option (Text × Text) :=
  let digits := text.take count
  if digits.length = count ∧ digits.all Numeral.isDecimal then some (digits, text.drop count)
  else none

/-- A character at the front of a text taken off. -/
def takeChar (c : Char) : Text → Option Text
  | d :: rest => if d = c then some rest else none
  | [] => none

/-- A text without the spaces and tabs at its front. -/
def withoutGap (text : Text) : Text := text.dropWhile fun c => c == ' ' || c == '\t'

/-- The offset of a clock at the end of a moment. -/
def takeZone (m : MomentText) (text : Text) : Option MomentText :=
  match withoutGap text with
  | [] => if text.isEmpty then some m else none
  | ['Z'] => some { m with universal := true }
  | sign :: rest => do
    guard (sign = '+' ∨ sign = '-')
    let (hours, rest) ← takeShort rest
    match rest with
    | [] => some { m with zone := some (sign = '-', hours, []) }
    | _ =>
      let (minutes, rest) ← takeExact 2 (← takeChar ':' rest)
      guard rest.isEmpty
      some { m with zone := some (sign = '-', hours, minutes) }

/-- The clock of a moment, which a letter or a gap separates from the date. -/
def takeClock (m : MomentText) (text : Text) : Option MomentText := do
  let rest := match text with
    | 'T' :: rest => rest
    | 't' :: rest => rest
    | _ => withoutGap text
  guard (rest.length < text.length)
  let (hour, rest) ← takeShort rest
  let (minute, rest) ← takeExact 2 (← takeChar ':' rest)
  let (second, rest) ← takeExact 2 (← takeChar ':' rest)
  let m := { m with clock := some (hour, minute, second) }
  match rest with
  | '.' :: rest =>
    takeZone { m with fraction := rest.takeWhile Numeral.isDecimal }
      (rest.dropWhile Numeral.isDecimal)
  | _ => takeZone m rest

/-- The parts of a text in the form of a date or a moment. -/
def momentText? (text : Text) : Option MomentText := do
  let (year, rest) ← takeExact 4 text
  let (month, rest) ← takeShort (← takeChar '-' rest)
  let (day, rest) ← takeShort (← takeChar '-' rest)
  let m : MomentText := ⟨year, month, day, none, [], none, false⟩
  if rest.isEmpty then some m else takeClock m rest

/-- Whether a plain text is a date or a moment. A date alone needs two digits for the month and the
day. -/
def isTimestamp (text : Text) : Bool :=
  (momentText? text).any fun m => m.clock.isSome || (m.month.length == 2 && m.day.length == 2)

/-- The spellings of truth values. -/
def truthValues : List (String × Bool) :=
  [("yes", true), ("no", false), ("true", true), ("false", false), ("on", true), ("off", false)]

/-- A word with its first letter, or all of them, in upper case. -/
def inThreeCases (word : String) : List Text :=
  let text := word.toList
  [text, (text.take 1).map Char.toUpper ++ text.drop 1, text.map Char.toUpper]

/-- The tag that a text has by its form. -/
def Tag.ofForm (text : Text) : Tag :=
  if truthValues.any fun entry => (inThreeCases entry.1).contains text then .bool
  else if isFloat text then .float
  else if isInt text then .int
  else if text = ['<', '<'] then .merge
  else if text.isEmpty ∨ text = ['~'] ∨ (inThreeCases "null").contains text then .null
  else if isTimestamp text then .timestamp
  else if text = ['='] then .equals
  else if text = ['!'] ∨ text = ['&'] ∨ text = ['*'] then .other text
  else .text

/-- A text without the line feed that may end it. A line feed alone is kept. -/
def withoutFinalBreak (text : Text) : Text :=
  if 1 < text.length ∧ text.getLast? = some '\n' then text.dropLast else text

/-- The tag of a scalar without a tag of its own. A line feed at its end does not count. -/
def Tag.ofPlain (text : Text) : Tag := .ofForm (withoutFinalBreak text)

end Swatch.Yaml
