/-!
# Double-precision numbers

The numbers m · 2^q of the 64-bit binary format, with the rounding of a quotient to the nearest of
them, ties going to the even significand.
-/

namespace PropOrder

/-- A number of the 64-bit binary format. -/
inductive Double where
  /-- A sign, a significand below 2^53 and an exponent. -/
  | finite (negative : Bool) (significand : Nat) (exponent : Int)
  /-- One of the two infinities. -/
  | infinite (negative : Bool)
  /-- Not a number. -/
  | nan
  deriving DecidableEq, Repr

namespace Double

/-- The least exponent. -/
def minExponent : Int := -1074

/-- The greatest exponent. -/
def maxExponent : Int := 971

/-- The least significand with 53 bits. -/
def leastFull : Nat := 0x10000000000000

/-- What all significands are below: 2^53. -/
def significandLimit : Nat := 0x20000000000000

/-- The quotient rounded to the nearest integer, a half going to the even one. -/
def roundQuotient (num den : Nat) : Nat :=
  let below := num / den
  let twice := 2 * (num % den)
  if twice < den then below
  else if den < twice then below + 1
  else below + below % 2

/-- A ratio divided by a power of two, as a ratio. -/
def scaleBinary (num den : Nat) (exponent : Int) : Nat × Nat :=
  if 0 ≤ exponent then (num, den * Nat.pow 2 exponent.toNat)
  else (num * Nat.pow 2 (-exponent).toNat, den)

/-- The exponent at which the significand of a ratio has 53 bits, or the least exponent. -/
def exponentOf (num den : Nat) : Int :=
  let guess : Int := (Nat.log2 num : Int) - (Nat.log2 den : Int) - 53
  let (n, d) := scaleBinary num den guess
  let exponent := if n / d < significandLimit then guess else guess + 1
  if exponent < minExponent then minExponent else exponent

/-- The number nearest to a ratio of natural numbers. -/
def ofRatio (negative : Bool) (num den : Nat) : Double :=
  if num = 0 then .finite negative 0 minExponent
  else
    let exponent := exponentOf num den
    let (n, d) := scaleBinary num den exponent
    let significand := roundQuotient n d
    let (significand, exponent) :=
      if significand < significandLimit then (significand, exponent)
      else (leastFull, exponent + 1)
    if maxExponent < exponent then .infinite negative
    else .finite negative significand exponent

/-- The number of decimal digits of a natural number; zero has one. -/
def digitCount (n : Nat) : Nat := (Nat.toDigits 10 n).length

/-- The number nearest to a decimal. Decimals far outside the range are decided by their
magnitude, so that no power is computed for them. -/
def ofDecimal (negative : Bool) (digits : Nat) (exponent : Int) : Double :=
  if digits = 0 then .finite negative 0 minExponent
  else
    let magnitude := (digitCount digits : Int) + exponent
    if 400 < magnitude then .infinite negative
    else if magnitude < -400 then .finite negative 0 minExponent
    else if 0 ≤ exponent then ofRatio negative (digits * Nat.pow 10 exponent.toNat) 1
    else ofRatio negative digits (Nat.pow 10 (-exponent).toNat)

/-- Whether a number is one of the two zeros. -/
def isZero : Double → Bool
  | .finite _ significand _ => significand == 0
  | _ => false

/-- Whether two numbers compare equal: the zeros do, and nothing equals what is not a number. -/
def eqv : Double → Double → Bool
  | .finite n m q, .finite n' m' q' => (m == 0 && m' == 0) || (n == n' && m == m' && q == q')
  | .infinite n, .infinite n' => n == n'
  | _, _ => false

/-- Whether a number compares equal to an integer. -/
def eqvInt : Double → Int → Bool
  | .finite negative m q, i =>
    let (n, d) := scaleBinary i.natAbs 1 q
    n == m * d && (m == 0 || negative == decide (i < 0))
  | _, _ => false

end Double

end PropOrder
