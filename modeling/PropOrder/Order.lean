import PropOrder.Declaration
import PropOrder.Diagnostic
import PropOrder.Policy
import PropOrder.Text.Lower

/-!
# The order of declarations

A declaration list is read from left to right with a baseline, the declaration that the next one
is compared with. For each pair the layers are asked in a fixed order, required first, callbacks
last, alphabetical, and the first that decides the pair ends it. The layers keep different
baselines: a required declaration after another is blamed and becomes the baseline, a callback
before another is blamed and stays the baseline, and a declaration below its baseline in the
alphabet is blamed and leaves the baseline as it was.

A spread breaks the list: what follows it is compared with nothing before it.
-/

namespace PropOrder

/-- The name that a declaration has in the alphabetical order. -/
def Declaration.sortName (policy : Policy) (d : Declaration) : Text :=
  if policy.ignoreCase then d.name.lower else d.name

namespace Order

/-- Compare a declaration with its baseline: the baseline for the next one, and what is found. -/
def compare (policy : Policy) (prev curr : Declaration) : Declaration × List Diagnostic :=
  if policy.requiredFirst && prev.required && !curr.required then (curr, [])
  else if policy.requiredFirst && !prev.required && curr.required then
    (curr, [.of curr.site .requiredFirst])
  else if policy.callbacksLast && !prev.isCallback && curr.isCallback then (curr, [])
  else if policy.callbacksLast && prev.isCallback && !curr.isCallback then
    (prev, [.of prev.site .callbacksLast])
  else if !policy.noSortAlphabetically && (curr.sortName policy).less (prev.sortName policy) then
    (prev, [.of curr.site .alphabetical])
  else (curr, [])

/-- Check the members of a list from a baseline on, if there is one. -/
def checkFrom (policy : Policy) : Option Declaration → List Member → List Diagnostic
  | _, [] => []
  | _, .spread :: rest => checkFrom policy none rest
  | none, .declaration d :: rest => checkFrom policy (some d) rest
  | some prev, .declaration d :: rest =>
    let (next, found) := compare policy prev d
    found ++ checkFrom policy (some next) rest

/-- Check the members of a declaration list. -/
def checkMembers (policy : Policy) (members : List Member) : List Diagnostic :=
  checkFrom policy none members

end Order

/-- Check the order of a declaration list. -/
def checkOrder (policy : Policy) (source : Option SourceText) (declarations : Value) :
    Except Fault (List Diagnostic) := do
  let members ← (← declarations.items).mapM (Member.ofEntry source)
  return Order.checkMembers policy members

end PropOrder
