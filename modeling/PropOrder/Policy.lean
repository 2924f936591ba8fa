/-!
# Policies

What the order of declarations is checked for.
-/

namespace PropOrder

/-- The options of the ordering rule. By default only the alphabetical order is checked, and
shapes are left alone. -/
structure Policy where
  /-- Required declarations come before the others. -/
  requiredFirst : Bool
  /-- Callbacks come after the others. -/
  callbacksLast : Bool
  /-- The alphabetical order looks at names in lower case. -/
  ignoreCase : Bool
  /-- The alphabetical order is not checked. -/
  noSortAlphabetically : Bool
  /-- The declarations of a shape are checked too. -/
  sortShapeProp : Bool
  deriving DecidableEq, Repr

/-- The policy without any option. -/
def Policy.standard : Policy := ⟨false, false, false, false, false⟩

end PropOrder
