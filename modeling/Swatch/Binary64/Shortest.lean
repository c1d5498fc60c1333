import Swatch.Binary64.Basic
import Swatch.Numeral

/-!
The shortest decimal text of a double: the fewest digits that read back as the same double and, of
those, the nearest to it. Values from one ten-thousandth up to below ten to the sixteenth are
written positionally and keep a digit after the point; the others have an exponent of at least two
digits.
-/
namespace Swatch

namespace Binary64

/-- The real numbers that round to a finite double, in quarters of its unit: the lower and the upper
end. Below a power of two the next double is only half a unit away. -/
def roundingInterval (mantissa : Nat) (exponent : Int) : Nat × Nat :=
  (if mantissa = powerMantissa ∧ leastExponent < exponent then 4 * mantissa - 1
    else 4 * mantissa - 2,
    4 * mantissa + 2)

/-- Whether `digits * 10 ^ scale` rounds to the double. The ends of the interval round to it when
its mantissa is even. -/
def readsBack (mantissa : Nat) (exponent : Int) (digits : Nat) (scale : Int) : Bool :=
  let (low, high) := roundingInterval mantissa exponent
  let (p, q) := ratio 1 (exponent - 2)
  let value := digits * tenTo scale.toNat * q
  let unit := tenTo (-scale).toNat * p
  if mantissa % 2 = 0 then low * unit ≤ value && value ≤ high * unit
  else low * unit < value && value < high * unit

/-- The exponent of ten of the leading digit of a positive ratio. -/
def leadingPlace (numerator denominator : Nat) : Int :=
  let guess : Int := ((Numeral.digits 10 numerator).length : Int) -
    (Numeral.digits 10 denominator).length
  if numerator * tenTo (-guess).toNat < denominator * tenTo guess.toNat then guess - 1 else guess

/-- The decimal with a given last place that is nearest to a ratio, if it reads back as the double;
otherwise the other neighbour of the ratio in that place, if that one does. -/
def nearestAt (mantissa : Nat) (exponent place : Int) : Option Nat :=
  let (n, d) := ratio mantissa exponent
  let (n, d) := (n * tenTo (-place).toNat, d * tenTo place.toNat)
  let below := n / d
  let nearest := roundedQuotient n d
  let other := if nearest = below then below + 1 else below
  [nearest, other].find? fun digits => 0 < digits && readsBack mantissa exponent digits place

/-- The digits and the last place of the shortest decimal that reads back as a positive double. At
most seventeen digits are ever needed. -/
def shortest (mantissa : Nat) (exponent : Int) : Nat × Int :=
  let (n, d) := ratio mantissa exponent
  let lead := leadingPlace n d
  let places := (List.range 17).map fun k : Nat => lead - k
  (places.findSome? fun place => (nearestAt mantissa exponent place).map (·, place)).getD
    (mantissa, exponent)

/-- Digits without the zeros they end in, the place of the last digit raised for each. -/
def withoutTrailingZeros (digits : Text) (place : Int) : Text × Int :=
  let kept := (digits.reverse.dropWhile (· = '0')).reverse
  (kept, place + (digits.length - kept.length : Nat))

/-- Digits laid out with a point, or with an exponent when they stand far from it. -/
def layOut (digits : Text) (place : Int) : Text :=
  let lead := place + digits.length - 1
  if lead < -4 ∨ 16 ≤ lead then
    let sign := if lead < 0 then '-' else '+'
    let fraction := if digits.length ≤ 1 then [] else '.' :: digits.drop 1
    digits.take 1 ++ fraction ++
      'e' :: sign :: (Base.decimal.numeral lead.natAbs).leftpad 2 '0'
  else if lead < 0 then
    '0' :: '.' :: List.replicate (lead.natAbs - 1) '0' ++ digits
  else if 0 ≤ place then
    digits ++ List.replicate place.toNat '0' ++ ['.', '0']
  else
    digits.take (lead.toNat + 1) ++ '.' :: digits.drop (lead.toNat + 1)

/-- The text of a double. -/
def text : Binary64 → Text
  | .nan => "nan".toList
  | .infinite negative => if negative then "-inf".toList else "inf".toList
  | .finite negative mantissa exponent =>
    let magnitude :=
      if mantissa = 0 then "0.0".toList
      else
        let (digits, place) := shortest mantissa exponent
        let (digits, place) := withoutTrailingZeros (Base.decimal.numeral digits) place
        layOut digits place
    if negative then '-' :: magnitude else magnitude

end Binary64

end Swatch
