/-!
# Binary floating point numbers

A double is a signed dyadic rational with 53 bits of precision, an infinity, or not a number.  What
is not a number differs from everything, so which of these things it is has to be told apart.
Nothing here is approximate: rounding divides natural numbers, and comparisons are made between
exact values.  `Double.round` keeps the mantissa as large as the exponent range allows, so equal
values of one sign have equal representations.
-/

namespace RecordSchema

/-- A double: a finite one is `mantissa * 2 ^ exponent` with its sign. -/
inductive Double where
  | nan (identity : Nat)
  | infinite (negative : Bool)
  | finite (negative : Bool) (mantissa : Nat) (exponent : Int)
  deriving DecidableEq, Repr

namespace Double

def minExponent : Int := -1074

def maxExponent : Int := 971

def minFullMantissa : Nat := 4503599627370496

def zero (negative : Bool) : Double :=
  .finite negative 0 minExponent

/-- A quotient rounded to the nearest natural number, a half to the even neighbour. -/
def roundQuotient (numerator denominator : Nat) : Nat :=
  let quotient := numerator / denominator
  let remainder := 2 * (numerator % denominator)
  if remainder < denominator then quotient
  else if denominator < remainder then quotient + 1
  else quotient + quotient % 2

/-- The nearest multiple of `2 ^ exponent` to a quotient, counted in that unit. -/
def mantissaAt (numerator denominator : Nat) (exponent : Int) : Nat :=
  if 0 ≤ exponent then roundQuotient numerator (denominator * Nat.pow 2 exponent.toNat)
  else roundQuotient (numerator * Nat.pow 2 (-exponent).toNat) denominator

/-- The exponent at which a positive quotient has 53 bits, no less than the least one. -/
def exponentFor (numerator denominator : Nat) : Int :=
  let guess : Int := (numerator.log2 : Int) - (denominator.log2 : Int) - 52
  let reaches : Bool :=
    if 0 ≤ guess then denominator * (minFullMantissa * Nat.pow 2 guess.toNat) ≤ numerator
    else denominator * minFullMantissa ≤ numerator * Nat.pow 2 (-guess).toNat
  max minExponent (if reaches then guess else guess - 1)

/-- The double nearest to a quotient, ties to the even mantissa; infinite when it is too large. -/
def round (negative : Bool) (numerator denominator : Nat) : Double :=
  if numerator = 0 then zero negative
  else
    let exponent := exponentFor numerator denominator
    let mantissa := mantissaAt numerator denominator exponent
    let (mantissa, exponent) :=
      if mantissa = 2 * minFullMantissa then (minFullMantissa, exponent + 1)
      else (mantissa, exponent)
    if maxExponent < exponent then .infinite negative else .finite negative mantissa exponent

/-- The double nearest to an integer, or none when the integer is out of range. -/
def ofInt? (value : Int) : Option Double :=
  match round (value < 0) value.natAbs 1 with
  | .finite negative mantissa exponent => some (.finite negative mantissa exponent)
  | _ => none

/-- The double nearest to `digits * 10 ^ scale`.  Exponents far outside the range are settled
without computing the power. -/
def ofDecimal (negative : Bool) (digits : Nat) (scale : Int) : Double :=
  if digits = 0 then zero negative
  else
    let size : Int := (Nat.toDigits 10 digits).length + scale
    if 400 < size then .infinite negative
    else if size < -400 then zero negative
    else if 0 ≤ scale then round negative (digits * Nat.pow 10 scale.toNat) 1
    else round negative digits (Nat.pow 10 (-scale).toNat)

def signed (negative : Bool) (mantissa : Nat) : Int :=
  if negative then -(mantissa : Int) else (mantissa : Int)

/-- A finite value in units of `2 ^ unit`, where `unit` is at most its exponent. -/
def scaledTo (unit : Int) (negative : Bool) (mantissa : Nat) (exponent : Int) : Int :=
  signed negative mantissa * (Nat.pow 2 (exponent - unit).toNat : Nat)

/-- The order of two doubles; none when one of them is not a number. -/
def compare? : Double → Double → Option Ordering
  | .nan _, _ => none
  | _, .nan _ => none
  | .infinite left, .infinite right => some (Ord.compare right left)
  | .infinite negative, .finite _ _ _ => some (if negative then .lt else .gt)
  | .finite _ _ _, .infinite negative => some (if negative then .gt else .lt)
  | .finite leftSign leftMantissa leftExponent, .finite rightSign rightMantissa rightExponent =>
    let unit := min leftExponent rightExponent
    some (Ord.compare (scaledTo unit leftSign leftMantissa leftExponent)
      (scaledTo unit rightSign rightMantissa rightExponent))

/-- The order of a double and an integer, both taken exactly. -/
def compareInt? : Double → Int → Option Ordering
  | .nan _, _ => none
  | .infinite negative, _ => some (if negative then .lt else .gt)
  | .finite negative mantissa exponent, value =>
    let unit := min exponent 0
    some (Ord.compare (scaledTo unit negative mantissa exponent)
      (value * (Nat.pow 2 (-unit).toNat : Nat)))

def isZero : Double → Bool
  | .finite _ 0 _ => true
  | _ => false

/-- The integer a double is equal to, when there is one. -/
def toInt? : Double → Option Int
  | .finite negative mantissa exponent =>
    if 0 ≤ exponent then some (signed negative mantissa * (Nat.pow 2 exponent.toNat : Nat))
    else
      let unit := Nat.pow 2 (-exponent).toNat
      if mantissa % unit = 0 then some (signed negative (mantissa / unit)) else none
  | _ => none

end Double
end RecordSchema
