import PropOrder.Fault
import PropOrder.Number.Numeral
import PropOrder.Number.Shortest
import PropOrder.Text.Quoted

/-!
# Scalars

Texts, numbers and truth values. Numbers of both types compare by value, and a truth value counts
as zero or one among them. A scalar stands as a text by itself and quoted among others.
-/

namespace PropOrder

/-- A value that is not a node. -/
inductive Scalar where
  /-- A text. -/
  | text (value : Text)
  /-- An integer. -/
  | int (value : Int)
  /-- A number of the 64-bit binary format. -/
  | real (value : Double)
  /-- A truth value. -/
  | bool (value : Bool)
  deriving DecidableEq, Repr

namespace Scalar

/-- The number that a truth value counts as. -/
def boolInt (b : Bool) : Int := if b then 1 else 0

/-- Whether two scalars are equal. Numbers of all types compare by value, and so do truth values,
which count as zero and one. -/
def eqv : Scalar → Scalar → Bool
  | text t, text u => t == u
  | int i, int j => i == j
  | int i, bool b | bool b, int i => i == boolInt b
  | bool a, bool b => a == b
  | real x, real y => x.eqv y
  | real x, int i | int i, real x => x.eqvInt i
  | real x, bool b | bool b, real x => x.eqvInt (boolInt b)
  | _, _ => false

/-- Whether a scalar counts as true: an empty text, a zero and false do not. -/
def truthy : Scalar → Bool
  | text t => !t.isEmpty
  | int i => i != 0
  | real x => !x.isZero
  | bool b => b

/-! ### Texts of scalars -/

/-- The decimal text of an integer, refused when it is too long. -/
def decimalText (i : Int) : Except Fault Text :=
  let digits := Text.ofNat i.natAbs
  if Numeral.maxDigits < digits.length then .error .integerTooLong
  else .ok (if i < 0 then Text.code '-' :: digits else digits)

/-- The text of a truth value. -/
def boolText (b : Bool) : Text := Text.ofString (if b then "True" else "False")

/-- The text of a scalar as it stands among others: texts are quoted. -/
def shown : Scalar → Except Fault Text
  | text t => .ok t.quoted
  | int i => decimalText i
  | real x => .ok x.text
  | bool b => .ok (boolText b)

end Scalar

end PropOrder
