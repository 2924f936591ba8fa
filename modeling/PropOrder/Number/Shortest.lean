import PropOrder.Number.Double
import PropOrder.Text.Basic

/-!
# Shortest decimal text

A finite number is written with the fewest digits that read back as that number, the nearest such
decimal first. The candidates with a given number of digits are the two neighbours of the number
on that decimal grid; they are tested against the interval of reals that round to the number.
Positional notation is used from 10^-4 up to below 10^16, and always has a digit after the point.
-/

namespace PropOrder.Double

/-- A positive ratio. -/
structure Ratio where
  /-- The numerator. -/
  num : Nat
  /-- The denominator. -/
  den : Nat

/-- The ratio n · 2^q. -/
def Ratio.ofBinary (n : Nat) (q : Int) : Ratio :=
  if 0 ≤ q then ⟨n * Nat.pow 2 q.toNat, 1⟩ else ⟨n, Nat.pow 2 (-q).toNat⟩

/-- The ratio d · 10^k. -/
def Ratio.ofDecimal (d : Nat) (k : Int) : Ratio :=
  if 0 ≤ k then ⟨d * Nat.pow 10 k.toNat, 1⟩ else ⟨d, Nat.pow 10 (-k).toNat⟩

/-- Whether one ratio is less than another. -/
def Ratio.less (a b : Ratio) : Bool := a.num * b.den < b.num * a.den

/-- The reals between the two midpoints around a number; the ends belong to it when the
significand is even, because ties go to the even significand. -/
structure Interval where
  /-- The lower end. -/
  low : Ratio
  /-- The upper end. -/
  high : Ratio
  /-- Whether the ends belong to the interval. -/
  closed : Bool

/-- The reals that round to a positive number. Below a power of two the spacing is halved. -/
def interval (m : Nat) (q : Int) : Interval where
  low := if m = leastFull ∧ minExponent < q then .ofBinary (4 * m - 1) (q - 2)
    else .ofBinary (2 * m - 1) (q - 1)
  high := .ofBinary (2 * m + 1) (q - 1)
  closed := m % 2 == 0

/-- Whether a ratio lies in an interval. -/
def Interval.contains (i : Interval) (r : Ratio) : Bool :=
  if i.closed then !r.less i.low && !i.high.less r else i.low.less r && r.less i.high

/-- The place of the decimal point of a positive ratio: the least p with the ratio below 10^p. -/
def decimalPoint (r : Ratio) : Int :=
  if r.den ≤ r.num then digitCount (r.num / r.den) else 1 - (digitCount (r.den / r.num) : Int)

/-- The distance of a ratio from another, over the product of the denominators. -/
def distance (a b : Ratio) : Nat :=
  (a.num * b.den - b.num * a.den) + (b.num * a.den - a.num * b.den)

/-- The decimal d · 10^k on a grid that rounds to the ratio, if one does: of two the nearer, and of
two equally near the even one. -/
def onGrid? (i : Interval) (r : Ratio) (k : Int) : Option Nat :=
  let cell := Ratio.ofDecimal 1 k
  let below := (r.num * cell.den) / (r.den * cell.num)
  let down := Ratio.ofDecimal below k
  let up := Ratio.ofDecimal (below + 1) k
  match i.contains down && below != 0, i.contains up with
  | false, false => none
  | true, false => some below
  | false, true => some (below + 1)
  | true, true =>
    -- the two denominators agree, so the distances compare as they stand
    let (a, b) := (distance r down, distance r up)
    some (if a < b then below else if b < a then below + 1 else below + below % 2)

/-- The decimal with the fewest digits, trying so many more digit counts. -/
def shortestFrom (i : Interval) (r : Ratio) (point : Int) : Nat → Nat → Nat × Int
  | 0, count => ((r.num * Nat.pow 10 count) / r.den, -(count : Int))
  | tries + 1, count =>
    let k := point - count
    match onGrid? i r k with
    | some d => (d, k)
    | none => shortestFrom i r point tries (count + 1)

/-- The digits and the exponent of the shortest decimal of a positive number. -/
def shortest (m : Nat) (q : Int) : Nat × Int :=
  let r := Ratio.ofBinary m q
  shortestFrom (interval m q) r (decimalPoint r) 17 1

/-- A text of digits without its trailing zeros, but for a first one. -/
def trimZeros (digits : Text) : Text :=
  match (digits.reverse.dropWhile (· == Text.code '0')).reverse with
  | [] => [Text.code '0']
  | trimmed => trimmed

/-- So many zeros. -/
def zeros (n : Nat) : Text := List.replicate n (Text.code '0')

/-- The exponent part of a text: a sign and at least two digits. -/
def exponentText (e : Int) : Text :=
  let digits := Text.ofNat e.natAbs
  [Text.code 'e', if e < 0 then Text.code '-' else Text.code '+'] ++
    (if digits.length < 2 then Text.code '0' :: digits else digits)

/-- Digits with a point at a place counted from their front. -/
def layout (digits : Text) (point : Int) : Text :=
  let size : Int := digits.length
  if -4 < point ∧ point ≤ 16 then
    if point ≤ 0 then Text.ofString "0." ++ zeros (-point).toNat ++ digits
    else if size ≤ point then digits ++ zeros (point - size).toNat ++ Text.ofString ".0"
    else digits.take point.toNat ++ [Text.code '.'] ++ digits.drop point.toNat
  else
    match digits with
    | [] => []
    | [d] => d :: exponentText (point - 1)
    | d :: more => d :: Text.code '.' :: more ++ exponentText (point - 1)

/-- The text of a finite number without its sign. -/
def magnitudeText (m : Nat) (q : Int) : Text :=
  if m = 0 then Text.ofString "0.0"
  else
    let (d, k) := shortest m q
    let digits := Text.ofNat d
    layout (trimZeros digits) (digits.length + k)

/-- The text of a number. -/
def text : Double → Text
  | .finite negative m q => (if negative then [Text.code '-'] else []) ++ magnitudeText m q
  | .infinite negative => Text.ofString (if negative then "-inf" else "inf")
  | .nan => Text.ofString "nan"

end PropOrder.Double
