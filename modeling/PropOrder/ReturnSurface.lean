import PropOrder.Reading
import PropOrder.Scope

/-!
# The return surface

The return surface of a function lists the statements that the function can return from. The
scopes of the function give candidates, and each candidate is followed through unbraced control
flow to the returns it leads to; a return of a function inside is never among them.
`reduce_eq` is the rule by which a statement is followed.
-/

namespace PropOrder

namespace Site

/-! ### Candidates -/

/-- The function that a method or a property holds, or else the node itself. -/
def effectiveTarget (s : Site) : Except Fault Site := do
  if s.kind == "MethodDefinition" || s.kind == "Property" then
    match ← (s.get "value").site? with
    | some f => return if f.isFunctionLike then f else s
    | none => return s
  else return s

/-- Whether a statement of a function body is a candidate. -/
def isBodyCandidate (e : Entry Site) : Except Fault Bool := do
  let s ← e.site
  return s.kind == "ReturnStatement" || s.isTransparent

/-- The candidates of the scope of a function itself: its concise body, or the returns and the
transparent statements of its body. -/
def bodyCandidates (target : Site) : Except Fault (List (Entry Site)) := do
  match ← (target.get "body").site? with
  | none => return []
  | some body =>
    if body.isBlock then
      let statements ← (body.get "body").items
      let flags ← statements.mapM isBodyCandidate
      return ((statements.zip flags).filter (·.2)).map (·.1)
    else return [.node body]

/-- The unbraced body of a loop. -/
def loopCandidates (block : Site) : Except Fault (List (Entry Site)) := do
  match ← (block.get "body").site? with
  | some body => return if body.isBlock then [] else [.node body]
  | none => return []

/-- The candidates that a scope of a function gives. -/
def scopeCandidates (target : Site) (scope : Scope) : Except Fault (List (Entry Site)) :=
  match scope.kind with
  | .function => if scope.block.same target then target.bodyCandidates else return []
  | .block => (scope.block.get "body").items
  | .switch => return [.node scope.block]
  | .loop => scope.block.loopCandidates
  | .global | .handler | .classBody => return []

/-! ### Following a statement -/

/-- Whether a node is the concise body of a function. -/
def isConciseBody (s target : Site) : Bool := (target.get "body").isSite s && !s.isBlock

/-- Whether a node is looked through to its unbraced branches. -/
def isChoice (s : Site) : Bool := s.kind == "IfStatement"

/-- What a statement that is an expression hands out: the expression, if there is one. -/
def handedOut (s : Site) : List Value :=
  let expression := s.get "expression"
  if expression.isNull then [] else [expression]

/-- The returns of a function that a statement leads to. -/
def reduce (target s : Site) : Except Fault (List Value) :=
  if s.isConciseBody target then return [.node s]
  else if s.isReturn || s.isFunctionLike then return if s.ownedBy target then [.node s] else []
  else if s.kind == "ExpressionStatement" then return s.handedOut
  else if s.isChoice then do
    let consequent ← (s.get "consequent").withNode [] fun branch _ =>
      if branch.isBlock then return [] else reduce target branch
    let alternate ← (s.get "alternate").withNode [] fun branch _ =>
      if branch.isBlock then return [] else reduce target branch
    return consequent ++ alternate
  else if s.isTransparent then
    (s.get "body").withNode [] fun body _ => if body.isBlock then return [] else reduce target body
  else if s.kind == "SwitchStatement" then
    (s.get "cases").withItems (.error .notANode) fun case _ =>
      (case.get "consequent").withItems (.ok []) fun statement _ => reduce target statement
  else return []
termination_by sizeOf s.node
decreasing_by
  all_goals try exact sizeOf_lt_of_mem_get ‹_›
  exact Nat.lt_trans (sizeOf_lt_of_mem_get ‹_›) (sizeOf_lt_of_mem_get ‹_›)

/-- The returns that the unbraced statement in a field leads to. -/
def reduceUnbraced (target : Site) (v : Value) : Except Fault (List Value) :=
  v.site? >>= fun b => b.elim (.ok []) fun b => if b.isBlock then .ok [] else reduce target b

/-- The returns that the statements of a case lead to. -/
def reduceCase (target : Site) (e : Entry Site) : Except Fault (List Value) :=
  Value.entryWith e (.error .notANode) fun case _ => do
    let statements ← (case.get "consequent").items
    let found ← statements.mapM fun e => Value.entryWith e (.ok []) fun s _ => reduce target s
    return found.flatten

/-- The rule by which a statement is followed. -/
theorem reduce_eq (target s : Site) : reduce target s =
    if s.isConciseBody target then .ok [.node s]
    else if s.isReturn || s.isFunctionLike then .ok (if s.ownedBy target then [.node s] else [])
    else if s.kind == "ExpressionStatement" then .ok s.handedOut
    else if s.isChoice then do
      let consequent ← reduceUnbraced target (s.get "consequent")
      let alternate ← reduceUnbraced target (s.get "alternate")
      return consequent ++ alternate
    else if s.isTransparent then reduceUnbraced target (s.get "body")
    else if s.kind == "SwitchStatement" then do
      let cases ← (s.get "cases").items
      let found ← cases.mapM (reduceCase target)
      return found.flatten
    else .ok [] := by
  rw [reduce]
  simp only [Value.withNode_eq, Value.withItems_eq]
  rfl

/-- The returns of a function that a candidate leads to. -/
def reduceEntry (target : Site) : Entry Site → Except Fault (List Value)
  | .null => return []
  | .scalar _ => .error .notANode
  | .node s => reduce target s

/-- The candidates of a node: itself if it is a return, or those of the scopes of a function. -/
def candidates (target : Site) (scopes : List Scope) : Except Fault (List (Entry Site)) := do
  if target.isReturn then return [.node target]
  else if target.isFunctionLike then
    return (← (Scope.ownedBy target scopes).mapM target.scopeCandidates).flatten
  else return []

/-- The statements that a function can return from; nothing if it has no candidate at all. A
statement is listed once for every candidate that leads to it. -/
def returnSurface (s : Site) (scopes : List Scope) : Except Fault (Option (List Value)) := do
  let target ← s.effectiveTarget
  match ← target.candidates scopes with
  | [] => return none
  | candidates => return some (← candidates.mapM target.reduceEntry).flatten

end Site

end PropOrder
