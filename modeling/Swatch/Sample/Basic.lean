import Swatch.Document.Display

/-!
Color samples: an alpha and three visible channels of a byte each. A sample is the same thing as a
number below `2 ^ 32`, its packed form, whose bytes are the channels in the order alpha, red, green,
blue.
-/
namespace Swatch

/-- A sampled color. -/
structure Sample where
  alpha : UInt8
  red : UInt8
  green : UInt8
  blue : UInt8
  deriving DecidableEq

/-- Why values make no sample: one is no channel value, or a number is no packed color. -/
inductive SampleError where
  | channel (letter : Char) (found : Value)
  | packed (value : Int)

/-- The wording of a refused sample. -/
def SampleError.message : SampleError → Text
  | .channel letter found =>
    "channel ".toList ++ letter :: " out of range: ".toList ++ found.display
  | .packed value =>
    "packed color out of range: ".toList ++ (if value < 0 then ['-'] else []) ++ "0x".toList ++
      Base.lowerHex.numeral value.natAbs

namespace Sample

/-- The sample without transparency that has the given visible channels. -/
def solid (red green blue : UInt8) : Sample := ⟨255, red, green, blue⟩

/-- White. -/
def white : Sample := solid 255 255 255

/-- Black. -/
def black : Sample := solid 0 0 0

/-- The sample all of whose channels are zero. -/
def transparent : Sample := ⟨0, 0, 0, 0⟩

/-- The packed form. -/
def packed (s : Sample) : Nat :=
  s.alpha.toNat * 0x1000000 + s.red.toNat * 0x10000 + s.green.toNat * 0x100 + s.blue.toNat

/-- The sample whose channels are the four lowest bytes of a number. -/
def ofBytes (n : Nat) : Sample :=
  ⟨UInt8.ofNat (n / 0x1000000), UInt8.ofNat (n / 0x10000), UInt8.ofNat (n / 0x100), UInt8.ofNat n⟩

/-- The sample with a given packed form. -/
def ofPacked (value : Int) : Except SampleError Sample :=
  if 0 ≤ value ∧ value < 0x100000000 then .ok (ofBytes value.toNat) else .error (.packed value)

/-- The byte a value is. Only whole numbers are bytes, truth values are not. -/
def byte? : Value → Option UInt8
  | .scalar (.int n) => if 0 ≤ n ∧ n ≤ 255 then some (UInt8.ofNat n.toNat) else none
  | _ => none

/-- The channel a value stands for, or the refusal of that value. -/
def channelOf (letter : Char) (found : Value) : Except SampleError UInt8 :=
  match byte? found with
  | some b => .ok b
  | none => .error (.channel letter found)

/-- The sample with the given channels. The first value that is no channel is refused, in the order
alpha, red, green, blue. -/
def ofValues (alpha red green blue : Value) : Except SampleError Sample := do
  let a ← channelOf 'a' alpha
  let r ← channelOf 'r' red
  let g ← channelOf 'g' green
  let b ← channelOf 'b' blue
  return ⟨a, r, g, b⟩

end Sample

end Swatch
