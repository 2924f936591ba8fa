import PropOrder.Kinds
import PropOrder.Reading

/-!
# The trailing return

The trailing return of a function is the last return among the direct statements of its body. A
switch with cases met from the back decides: only its last case is searched, and what stands before
the switch is not looked at.
-/

namespace PropOrder.Site

/-- Whether the search from the back ends at a statement: a return, or a switch with cases. -/
def isDeciding (s : Site) : Bool :=
  s.kind == "ReturnStatement" || (s.kind == "SwitchStatement" && (s.get "cases").truthy)

/-- The first of some statements at which the search ends. -/
def firstDeciding : List (Entry Site) → Except Fault (Option Site)
  | [] => return none
  | e :: rest => do
    let s ← e.site
    if s.isDeciding then return some s else firstDeciding rest

theorem mem_of_firstDeciding {es : List (Entry Site)} {s : Site}
    (h : firstDeciding es = .ok (some s)) : Entry.node s ∈ es := by
  induction es with
  | nil => cases h
  | cons e es ih =>
    cases e with
    | null => cases h
    | scalar _ => cases h
    | node c =>
      change (if c.isDeciding then Except.ok (some c) else firstDeciding es) = _ at h
      split at h
      · cases h; exact List.mem_cons_self ..
      · exact List.mem_cons_of_mem _ (ih h)

/-- The last statement of a list in a field at which the search ends. -/
def lastDeciding (owner : Site) (field : String) : Except Fault (Option Site) := do
  firstDeciding (← (owner.get field).items).reverse

theorem mem_of_lastDeciding {owner s : Site} {field : String}
    (h : owner.lastDeciding field = .ok (some s)) : s ∈ (owner.get field).nodeList := by
  unfold lastDeciding at h
  cases hv : (owner.get field).items with
  | error _ => rw [hv] at h; cases h
  | ok es =>
    rw [hv] at h
    exact Value.mem_nodeList_of_mem_items hv (List.mem_reverse.1 (mem_of_firstDeciding h))

/-- The trailing return of the statements in a field. -/
def trailingIn (owner : Site) (field : String) : Except Fault (Option Site) :=
  match _hs : owner.lastDeciding field with
  | .error fault => .error fault
  | .ok none => .ok none
  | .ok (some s) =>
    if s.kind == "ReturnStatement" then .ok (some s)
    else
      match _hc : (s.get "cases").lastNode with
      | .error fault => .error fault
      | .ok last => last.trailingIn "consequent"
termination_by sizeOf owner.node
decreasing_by
  exact Nat.lt_trans (sizeOf_lt_of_mem_get (Value.mem_nodeList_of_lastNode _hc))
    (sizeOf_lt_of_mem_get (mem_of_lastDeciding _hs))

/-- The body in braces of a node, if it is a list of statements. -/
def statementBody? (owner : Site) : Except Fault (Option Site) := do
  match ← (owner.get "body").site? with
  | none => return none
  | some body =>
    match body.get "body" with
    | .many _ => return some body
    | .one _ => return none

/-- The body in braces of the value of a node, or else of the node itself. -/
def trailingBody? (s : Site) : Except Fault (Option Site) := do
  let inner ← match ← (s.get "value").site? with
    | some value => value.statementBody?
    | none => pure none
  match inner with
  | some body => return some body
  | none => s.statementBody?

/-- The trailing return of a function, or of what holds one as its value. -/
def trailingReturn (s : Site) : Except Fault (Option Site) := do
  match ← s.trailingBody? with
  | some body => body.trailingIn "body"
  | none => return none

end PropOrder.Site
