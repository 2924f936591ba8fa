/-!
# Tables of ranges

A set of code points is written as the list of its ranges, in increasing order and disjoint.
-/

namespace PropOrder.Text

/-- Whether a code point lies in one of a list of ranges in increasing order. -/
def inRanges : List (Nat × Nat) → Nat → Bool
  | [], _ => false
  | (first, last) :: more, c =>
    if c < first then false else if c ≤ last then true else inRanges more c

end PropOrder.Text
