import PropOrder.Number.Double
import PropOrder.Text.Blank
import PropOrder.Text.Digit

/-!
# Numerals

A numeral is an integer in base ten, or in base sixteen, eight or two behind a marker, or else a
decimal with an optional fraction and exponent. White space may surround it, a sign may precede
it, and decimal digits of any script count as digits. A decimal integer has no leading zeros
unless it is zero, and at most 4300 digits; beyond these it is read as a decimal.
-/

namespace PropOrder

/-- The value of a numeral. -/
inductive Numeral where
  /-- An integer. -/
  | int (value : Int)
  /-- A number of the 64-bit binary format. -/
  | real (value : Double)
  deriving DecidableEq, Repr

namespace Numeral
open Text (code ofString digitsValue asciiDigit?)

/-- The greatest number of decimal digits of an integer that is read or written. -/
def maxDigits : Nat := 4300

/-- Whether a code point is a blank of the ASCII range that may surround a numeral. -/
def isEdgeBlank (c : Nat) : Bool := c == 0x20 || (0x09 ≤ c && c ≤ 0x0D)

/-- A code point in ASCII spelling: digits of any script as ASCII digits, wide blanks as spaces. -/
def toAscii (c : Nat) : Nat :=
  if c < 0x7F then c
  else if Text.isBlank c then code ' '
  else match Text.digitValue? c with
    | some d => code '0' + d
    | none => c

/-- The ASCII spelling of a text, without the blanks around it. -/
def normalize (t : Text) : Text :=
  let ascii := t.map toAscii
  ((ascii.dropWhile isEdgeBlank).reverse.dropWhile isEdgeBlank).reverse

/-- A sign at the front of a text, as whether it is a minus, and the rest. -/
def splitSign : Text → Bool × Text
  | c :: rest =>
    if c = code '-' then (true, rest)
    else if c = code '+' then (false, rest)
    else (false, c :: rest)
  | [] => (false, [])

/-- The value of a text of digits of a base; there must be one. -/
def wholeDigits? (base : Nat) (t : Text) : Option Nat :=
  if t.isEmpty then none
  else (t.mapM fun c => (asciiDigit? c).filter (· < base)).map (digitsValue base)

/-- The base that a marker letter stands for. -/
def markedBase? (c : Nat) : Option Nat :=
  if c = code 'x' ∨ c = code 'X' then some 16
  else if c = code 'o' ∨ c = code 'O' then some 8
  else if c = code 'b' ∨ c = code 'B' then some 2
  else none

/-- The value of an unmarked decimal integer. -/
def decimal? (t : Text) : Option Nat := do
  let value ← wholeDigits? 10 t
  if maxDigits < t.length then none
  else if t.head? = some (code '0') ∧ value ≠ 0 then none
  else some value

/-- The value of an integer without a sign. -/
def natural? (t : Text) : Option Nat :=
  match t with
  | first :: marker :: rest =>
    if first = code '0' then
      match markedBase? marker with
      | some base => wholeDigits? base rest
      | none => decimal? t
    else decimal? t
  | _ => decimal? t

/-- A number with a sign in front. -/
def signed (negative : Bool) (n : Nat) : Int := if negative then -n else n

/-- The value of an integer. -/
def integer? (t : Text) : Option Int :=
  let (negative, rest) := splitSign (normalize t)
  (natural? rest).map (signed negative)

/-- Whether a code point is an ASCII decimal digit. -/
abbrev isDigit (c : Nat) : Bool := Text.isDigitAscii c

/-- The value of an exponent part, which may be missing. -/
def exponent? : Text → Option Int
  | [] => some 0
  | c :: rest =>
    if c = code 'e' ∨ c = code 'E' then
      let (negative, digits) := splitSign rest
      (wholeDigits? 10 digits).map (signed negative)
    else none

/-- The fraction digits at the front of a text, and the rest. -/
def splitFraction : Text → Text × Text
  | c :: rest =>
    if c = code '.' then (rest.takeWhile isDigit, rest.dropWhile isDigit) else ([], c :: rest)
  | [] => ([], [])

/-- The number that a decimal with digits around the point stands for. -/
def finite? (negative : Bool) (t : Text) : Option Double := do
  let whole := t.takeWhile isDigit
  let (fraction, rest) := splitFraction (t.dropWhile isDigit)
  let digits ← wholeDigits? 10 (whole ++ fraction)
  let exponent ← exponent? rest
  return Double.ofDecimal negative digits (exponent - fraction.length)

/-- An ASCII letter in lower case. -/
def lowerAscii (c : Nat) : Nat := if Text.isUpperAscii c then c + 32 else c

/-- The value of a decimal numeral; infinity and what is not a number have names. -/
def real? (t : Text) : Option Double :=
  let (negative, rest) := splitSign (normalize t)
  let word := rest.map lowerAscii
  if word = ofString "inf" ∨ word = ofString "infinity" then some (.infinite negative)
  else if word = ofString "nan" then some .nan
  else finite? negative rest

/-- The value of a numeral: as an integer if it is one, else as a decimal. -/
def read? (t : Text) : Option Numeral :=
  match integer? t with
  | some n => some (.int n)
  | none => (real? t).map .real

/-- The value of a numeral written with underscores at any places. -/
def readSpaced? (t : Text) : Option Numeral := read? (t.filter (· != code '_'))

end Numeral

end PropOrder
