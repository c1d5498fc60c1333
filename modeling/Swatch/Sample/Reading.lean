import Swatch.Sample.Basic
import Swatch.Text.Blank

/-!
Reading a sample from text. Blanks around the text do not count. A text with a comma is a decimal
triple; one that begins with `0x` is a packed number of up to eight hexadecimal digits; any other is
three, six or eight hexadecimal digits after an optional `#`.
-/
namespace Swatch

/-- Why a text is no sample. A decimal part with too many digits is refused before its value is
known, and not as an invalid color. -/
inductive ColorError where
  | invalid (text : Text)
  | tooLong (part : Numeral.TooLong)
  deriving DecidableEq

/-- The wording of a refused color from somewhere. -/
def ColorError.messageFrom (origin : Text.Origin) : ColorError → Text
  | .invalid text => "invalid color: ".toList ++ text.quotedFrom origin
  | .tooLong part => part.message

/-- The wording of a refused color that was given as an argument. -/
def ColorError.message (e : ColorError) : Text := e.messageFrom .argument

namespace Sample

/-- Whether a text is a run of at least one decimal digit. -/
def isDecimalPart (part : Text) : Bool := !part.isEmpty && part.all Numeral.isDecimal

/-- The three parts of a decimal triple, freed of blanks. -/
def tripleParts? (value : Text) : Option (Text × Text × Text) :=
  match (value.pieces ',').map Text.trim with
  | [r, g, b] => if [r, g, b].all isDecimalPart then some (r, g, b) else none
  | _ => none

/-- The sample a decimal triple denotes, `none` standing for a text that is no color. -/
def readTriple (value : Text) : Except Numeral.TooLong (Option Sample) :=
  match tripleParts? value with
  | none => .ok none
  | some (r, g, b) => do
    let r ← Numeral.readDecimal r
    let g ← Numeral.readDecimal g
    let b ← Numeral.readDecimal b
    if r ≤ 255 ∧ g ≤ 255 ∧ b ≤ 255 then
      return some (solid (UInt8.ofNat r) (UInt8.ofNat g) (UInt8.ofNat b))
    else return none

/-- The sample that one to eight hexadecimal digits denote as a packed number. -/
def readPacked? (digits : Text) : Option Sample :=
  if digits.length ≤ 8 then (Numeral.read? 16 digits).map ofBytes else none

/-- The sample that three, six or eight hexadecimal digits denote: three stand for six with each of
them doubled, and six for a color without transparency. -/
def readHex? (digits : Text) : Option Sample :=
  match digits.length with
  | 3 => (Numeral.read? 16 (digits.flatMap fun d => [d, d])).map fun n => ofBytes (0xFF000000 + n)
  | 6 => (Numeral.read? 16 digits).map fun n => ofBytes (0xFF000000 + n)
  | 8 => readPacked? digits
  | _ => none

/-- The sample that a text without a comma and without outer blanks denotes. -/
def readDigits? : Text → Option Sample
  | '0' :: 'x' :: digits => readPacked? digits
  | '0' :: 'X' :: digits => readPacked? digits
  | '#' :: digits => readHex? digits
  | digits => readHex? digits

/-- The sample a text denotes. -/
def read (text : Text) : Except ColorError Sample :=
  let value := text.trim
  let found : Except ColorError (Option Sample) :=
    if value.contains ',' then (readTriple value).mapError .tooLong
    else .ok (readDigits? value)
  found.bind fun sample => sample.elim (.error (.invalid text)) .ok

end Sample

end Swatch
