import PropOrder.ReturnSurface

/-!
# Components

A component is a class that extends a component class, or a function that returns embedded markup
and is not a method of a class. What a function returns is read off its return surface, so that the
markup of a function inside does not count.
-/

namespace PropOrder

/-- A component and its name, if it has one. -/
structure Component where
  /-- The class or the function. -/
  site : Site
  /-- The name of the component. -/
  name : Value

namespace Site

/-- Whether a name is that of a component class. -/
def isBaseName (name : Value) : Except Fault Bool :=
  match name with
  | .many _ => .error .notAText
  | .one _ => .ok (name.isText "Component" || name.isText "PureComponent")

/-- Whether a class extends a component class, by its name alone or as a member of something. -/
def extendsComponent (s : Site) : Except Fault Bool := do
  match ← (s.get "superClass").site? with
  | none => return false
  | some base =>
    if base.isIdentifier then isBaseName (base.get "name")
    else if base.kind == "MemberExpression" then
      match ← (base.get "property").site? with
      | some property => isBaseName (property.get "name")
      | none => return false
    else return false

/-- Whether a node is embedded markup. -/
def isMarkup (s : Site) : Bool := s.kind == "JSXElement" || s.kind == "JSXFragment"

/-- Whether a node claims something about the type of an expression. -/
def isTypeClaim (s : Site) : Bool :=
  s.kind == "TSAsExpression" || s.kind == "TSSatisfiesExpression" ||
    s.kind == "TSNonNullExpression"

/-- Whether an expression gives embedded markup in a branch, an operand or under a type claim. -/
def rendersMarkup (s : Site) : Except Fault Bool :=
  if s.isMarkup then return true
  else if s.kind == "ConditionalExpression" then do
    if ← (s.get "consequent").withNode false fun c _ => rendersMarkup c then return true
    else (s.get "alternate").withNode false fun c _ => rendersMarkup c
  else if s.kind == "LogicalExpression" then do
    if ← (s.get "left").withNode false fun c _ => rendersMarkup c then return true
    else (s.get "right").withNode false fun c _ => rendersMarkup c
  else if s.isTypeClaim then (s.get "expression").withNode false fun c _ => rendersMarkup c
  else return false
termination_by sizeOf s.node
decreasing_by all_goals exact sizeOf_lt_of_mem_get ‹_›

/-- Whether the expression that a field holds gives embedded markup; nothing gives none. -/
def rendersMarkup? (v : Value) : Except Fault Bool :=
  v.site? >>= fun c => c.elim (.ok false) rendersMarkup

/-- The rule by which an expression gives embedded markup. -/
theorem rendersMarkup_eq (s : Site) : s.rendersMarkup =
    if s.isMarkup then .ok true
    else if s.kind == "ConditionalExpression" then do
      if ← rendersMarkup? (s.get "consequent") then return true
      else rendersMarkup? (s.get "alternate")
    else if s.kind == "LogicalExpression" then do
      if ← rendersMarkup? (s.get "left") then return true
      else rendersMarkup? (s.get "right")
    else if s.isTypeClaim then rendersMarkup? (s.get "expression")
    else .ok false := by
  rw [rendersMarkup]
  simp only [Value.withNode_eq]
  rfl

/-- Whether what a member of a return surface hands out gives embedded markup. -/
def returnsMarkup (found : Value) : Except Fault Bool := do
  let s ← found.site
  if s.kind == "ReturnStatement" then rendersMarkup? (s.get "argument") else s.rendersMarkup

/-- Whether a node is a method of a class. -/
def isMethodValue (s : Site) : Bool := s.parent?.any (·.kind == "MethodDefinition")

/-- Whether a node is a function that returns embedded markup, and no method of a class. -/
def isFunctionComponent (s : Site) (scopes : List Scope) : Except Fault Bool := do
  if !s.isFunctionLike || s.isMethodValue then return false
  else ((← s.returnSurface scopes).getD []).anyM returnsMarkup

/-- Whether a node is a class that extends a component class. -/
def isClassComponent (s : Site) : Except Fault Bool :=
  if s.isClass then s.extendsComponent else return false

/-- The name of a component: its own, or that of the variable it is bound to. -/
def componentName (s : Site) : Except Fault Value := do
  match ← (s.get "id").site? with
  | some id => return id.get "name"
  | none =>
    match s.parent? with
    | none => return .null
    | some p =>
      if p.kind == "VariableDeclarator" then
        match ← (p.get "id").site? with
        | some id => return id.get "name"
        | none => return .null
      else return .null

/-- The component that a node is, if it is one. -/
def component? (s : Site) (scopes : List Scope) : Except Fault (Option Component) := do
  if ← s.isClassComponent then return some ⟨s, ← s.componentName⟩
  else if ← s.isFunctionComponent scopes then return some ⟨s, ← s.componentName⟩
  else return none

end Site

namespace Component

/-- The components of a program, in the order in which they begin. -/
def all (program : Site) (scopes : List Scope) : Except Fault (List Component) := do
  return (← program.walk.mapM fun s => s.component? scopes).filterMap id

/-- The component that a node is, among those of a program. -/
def find? (components : List Component) (s : Site) : Option Component :=
  components.find? (·.site.same s)

end Component

end PropOrder
