import RecordSchema.Number.Double

/-!
# Shortest decimal texts of doubles

The digits of a double are the fewest that read back as it; among those the nearest to its
value, and of two equally near ones the even.  `Layout` says where positional notation ends and
how an exponent is written.
-/

namespace RecordSchema.Double

/-- A decimal number `digits * 10 ^ scale`. -/
structure Decimal where
  digits : Nat
  scale : Int
  deriving DecidableEq, Repr

/-- A natural number as `numerator / denominator` of a power of a base. -/
def powerRatio (base : Nat) (exponent : Int) : Nat × Nat :=
  if 0 ≤ exponent then (base.pow exponent.toNat, 1) else (1, base.pow (-exponent).toNat)

/-- Whether a decimal number rounds to the positive double `mantissa * 2 ^ exponent`. -/
def readsBackAs (mantissa : Nat) (exponent : Int) (candidate : Decimal) : Bool :=
  let (numerator, denominator) := powerRatio 10 candidate.scale
  candidate.digits ≠ 0 &&
    decide (round false (candidate.digits * numerator) denominator =
      .finite false mantissa exponent)

/-- The two neighbours of a quotient on the grid of multiples of `10 ^ scale`, the nearer one
first; of equally near ones the even one is first. -/
def neighbours (numerator denominator : Nat) (scale : Int) : List Decimal :=
  let (upper, lower) := powerRatio 10 scale
  let scaledNumerator := numerator * lower
  let scaledDenominator := denominator * upper
  let below := scaledNumerator / scaledDenominator
  let nearest := roundQuotient scaledNumerator scaledDenominator
  if nearest = below then [⟨below, scale⟩, ⟨below + 1, scale⟩]
  else [⟨below + 1, scale⟩, ⟨below, scale⟩]

/-- The number of decimal digits before the point of a quotient, zero or negative when the
quotient is below one tenth. -/
def decimalWidth (numerator denominator : Nat) : Int :=
  let digitCount := fun value : Nat => ((Nat.toDigits 10 value).length : Int)
  let guess := digitCount numerator - digitCount denominator
  let (upper, lower) := powerRatio 10 guess
  if denominator * upper ≤ numerator * lower then guess + 1 else guess

/-- Try the grids of `count` digits and more, at most `remaining` of them. -/
def shortestFrom (numerator denominator mantissa : Nat) (exponent : Int) :
    Nat → Nat → Decimal
  | 0, count => (neighbours numerator denominator
      (decimalWidth numerator denominator - count)).headD ⟨mantissa, 0⟩
  | remaining + 1, count =>
    match (neighbours numerator denominator
        (decimalWidth numerator denominator - count)).find? (readsBackAs mantissa exponent) with
    | some found => found
    | none => shortestFrom numerator denominator mantissa exponent remaining (count + 1)

def shortest (mantissa : Nat) (exponent : Int) : Decimal :=
  let (numerator, denominator) := powerRatio 2 exponent
  shortestFrom (mantissa * numerator) denominator mantissa exponent 17 1

/-- How doubles are laid out as text. -/
structure Layout where
  /-- The least power of ten of a first digit in positional notation. -/
  lowest : Int
  /-- The power of ten of a first digit from which an exponent is written. -/
  limit : Int
  /-- The least number of digits in an exponent. -/
  exponentDigits : Nat
  nan : String
  infinity : String
  deriving DecidableEq, Repr

def significant (digits : Nat) : List Char :=
  ((Nat.toDigits 10 digits).reverse.dropWhile (· = '0')).reverse

/-- Positional notation of `digits`, whose first one stands for `10 ^ power`. -/
def positional (digits : List Char) (power : Int) : List Char :=
  if power < 0 then '0' :: '.' :: List.replicate ((-power).toNat - 1) '0' ++ digits
  else
    let whole := power.toNat + 1
    let fraction := digits.drop whole
    digits.take whole ++ List.replicate (whole - digits.length) '0' ++
      '.' :: (if fraction.isEmpty then ['0'] else fraction)

/-- Scientific notation of `digits`, whose first one stands for `10 ^ power`. -/
def scientific (exponentDigits : Nat) (digits : List Char) (power : Int) : List Char :=
  let written := Nat.toDigits 10 power.natAbs
  let fraction := digits.drop 1
  digits.take 1 ++ (if fraction.isEmpty then [] else '.' :: fraction) ++
    'e' :: (if power < 0 then '-' else '+') ::
      List.replicate (exponentDigits - written.length) '0' ++ written

def render (layout : Layout) : Double → String
  | .nan _ => layout.nan
  | .infinite negative => if negative then "-" ++ layout.infinity else layout.infinity
  | .finite negative mantissa exponent =>
    let body :=
      if mantissa = 0 then ['0', '.', '0']
      else
        let decimal := shortest mantissa exponent
        let digits := significant decimal.digits
        let power := ((Nat.toDigits 10 decimal.digits).length : Int) + decimal.scale - 1
        if layout.lowest ≤ power ∧ power < layout.limit then positional digits power
        else scientific layout.exponentDigits digits power
    String.ofList (if negative then '-' :: body else body)

end RecordSchema.Double
