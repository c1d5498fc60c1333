/-!
The doubles of binary floating point as exact values, and the rounding of a ratio to the nearest of
them. Keeping the mantissa and the exponent as whole numbers makes every step exact arithmetic, and
two doubles are equal as values of this type precisely when they are the same double.
-/
namespace Swatch

/-- A double: not a number, an infinity, or the finite value `mantissa * 2 ^ exponent` with a sign.
The mantissa of a finite double is below `2 ^ 53`, and it is below `2 ^ 52` only at the least
exponent. -/
inductive Binary64 where
  | nan
  | infinite (negative : Bool)
  | finite (negative : Bool) (mantissa : Nat) (exponent : Int)
  deriving DecidableEq

namespace Binary64

/-- The exponent of the smallest doubles. -/
def leastExponent : Int := -1074

/-- The exponent of the largest finite doubles. -/
def greatestExponent : Int := 971

/-- One more than the greatest mantissa. -/
def mantissaLimit : Nat := 0x20000000000000

/-- The mantissa of the powers of two. -/
def powerMantissa : Nat := 0x10000000000000

/-- A power of two. -/
def twoTo (exponent : Nat) : Nat := Nat.pow 2 exponent

/-- A power of ten. -/
def tenTo (exponent : Nat) : Nat := Nat.pow 10 exponent

/-- The quotient of two numbers rounded to the nearest whole number, a half to the even one. -/
def roundedQuotient (numerator denominator : Nat) : Nat :=
  let quotient := numerator / denominator
  let twice := 2 * (numerator % denominator)
  if twice < denominator ∨ (twice = denominator ∧ quotient % 2 = 0) then quotient
  else quotient + 1

/-- A ratio measured in units of a power of two, as a numerator and a denominator. -/
def inUnitsOf (exponent : Int) (numerator denominator : Nat) : Nat × Nat :=
  if exponent < 0 then (numerator * twoTo exponent.natAbs, denominator)
  else (numerator, denominator * twoTo exponent.natAbs)

/-- The exponent at which a positive ratio has a mantissa of 53 bits, or the least exponent for a
ratio too small for that. -/
def exponentFor (numerator denominator : Nat) : Int :=
  let guess : Int := (numerator.log2 : Int) - denominator.log2 - 53
  let (n, d) := inUnitsOf guess numerator denominator
  max leastExponent (if mantissaLimit * d ≤ n then guess + 1 else guess)

/-- The double nearest to a ratio, a tie going to the even mantissa, and an infinity for a ratio
beyond the largest finite double. -/
def ofRatio (negative : Bool) (numerator denominator : Nat) : Binary64 :=
  if numerator = 0 ∨ denominator = 0 then .finite negative 0 leastExponent
  else
    let exponent := exponentFor numerator denominator
    let (n, d) := inUnitsOf exponent numerator denominator
    let mantissa := roundedQuotient n d
    let (mantissa, exponent) :=
      if mantissa = mantissaLimit then (powerMantissa, exponent + 1) else (mantissa, exponent)
    if greatestExponent < exponent then .infinite negative
    else .finite negative mantissa exponent

/-- The double nearest to `digits * 10 ^ exponent`. Exponents far outside the range of doubles are
settled at once, so that no power of that size is ever formed. -/
def ofDecimal (negative : Bool) (digits : Nat) (exponent : Int) : Binary64 :=
  if digits = 0 then .finite negative 0 leastExponent
  else if 400 < exponent then .infinite negative
  else if exponent + digits.log2 < -1200 then .finite negative 0 leastExponent
  else if exponent < 0 then ofRatio negative digits (tenTo exponent.natAbs)
  else ofRatio negative (digits * tenTo exponent.natAbs) 1

/-- The magnitude of a finite double as a ratio. -/
def ratio (mantissa : Nat) (exponent : Int) : Nat × Nat :=
  if exponent < 0 then (mantissa, twoTo exponent.natAbs)
  else (mantissa * twoTo exponent.natAbs, 1)

/-- A number with a sign. -/
def signed (negative : Bool) (n : Nat) : Int := if negative then -(n : Int) else n

/-- The sum of two doubles, rounded. A sum of zero is negative only if both of them are. -/
def plus : Binary64 → Binary64 → Binary64
  | .finite s m e, .finite s' m' e' =>
    let (n, d) := ratio m e
    let (n', d') := ratio m' e'
    let sum := signed s (n * d') + signed s' (n' * d)
    ofRatio (if sum = 0 then s && s' else sum < 0) sum.natAbs (d * d')
  | .infinite s, .infinite s' => if s = s' then .infinite s else .nan
  | .nan, _ => .nan
  | _, .nan => .nan
  | .infinite s, _ => .infinite s
  | _, .infinite s => .infinite s

/-- The product of a double with a positive whole number, rounded after the number itself has
been. -/
def scaled (x : Binary64) (factor : Nat) : Binary64 :=
  match x, ofRatio false factor 1 with
  | .finite s m e, .finite _ m' e' =>
    let (n, d) := ratio m e
    let (n', d') := ratio m' e'
    ofRatio s (n * n') (d * d')
  | .finite s _ _, _ => .infinite s
  | x, _ => x

/-- A double with its sign turned. -/
def negated : Binary64 → Binary64
  | .nan => .nan
  | .infinite negative => .infinite !negative
  | .finite negative m e => .finite (!negative) m e

/-- Whether a double is the whole number given. The sign of a zero does not matter. -/
def isInt (x : Binary64) (n : Int) : Bool :=
  match x with
  | .finite negative m e =>
    let (a, b) := ratio m e
    (a : Int) * (if negative then -1 else 1) == n * b
  | _ => false

end Binary64

end Swatch
