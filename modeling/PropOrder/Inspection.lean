import PropOrder.Binding
import PropOrder.Component
import PropOrder.Order
import PropOrder.Wrapper

/-!
# Declaration lists of a program

The lists that the ordering rule is about: the objects that `propTypes` is set to in classes,
assignments and objects, looked for behind names and wrapper functions; the objects that shapes
are made of; and the members of the types of the props of components. What does not lead to
a list is passed over.
-/

namespace PropOrder

/-- What the rule knows about a program. -/
structure Inspection where
  /-- What the order is checked for. -/
  policy : Policy
  /-- The wrapper functions. -/
  wrappers : List Wrapper
  /-- The source of the program. -/
  source : SourceText
  /-- The program. -/
  program : Site
  /-- The components of the program. -/
  components : List Component

namespace Site

/-- Whether a node declares the types of props: the annotated field `props` of a class, or what is
called `propTypes`. -/
def isPropTypesDeclaration (s : Site) : Except Fault Bool := do
  let annotatedProps ←
    if s.kind == "ClassProperty" && !(s.get "typeAnnotation").isNull then
      match ← (s.get "key").site? with
      | some key => pure ((key.get "name").isText "props")
      | none => pure false
    else pure false
  if annotatedProps then return true
  else return (← s.propertyName) == Text.ofString "propTypes"

/-- Whether a node calls a member called `shape`. -/
def isShapeCall (s : Site) : Except Fault Bool := do
  match ← (s.get "callee").site? with
  | none => return false
  | some callee =>
    match ← (callee.get "property").site? with
    | none => return false
    | some property => return (property.get "name").isText "shape"

/-- Whether a node declares a type by its members or by another type. -/
def isTypeDeclaration (s : Site) : Bool :=
  s.kind == "TSInterfaceDeclaration" || s.kind == "TSTypeAliasDeclaration"

/-- Hand what is inside the type claim of a node, or else the node itself, to a continuation. -/
def withUnwrapped {β : Type} (s : Site) (missing : β)
    (k : (u : Site) → sizeOf u.node ≤ sizeOf s.node → Except Fault β) : Except Fault β :=
  if s.kind == "TSAsExpression" then
    (s.get "expression").withNode missing fun u h => k u (Nat.le_of_lt (sizeOf_lt_of_mem_get h))
  else k s (Nat.le_refl _)

theorem withUnwrapped_eq {β : Type} (s : Site) (missing : β) (k : Site → Except Fault β) :
    s.withUnwrapped missing (fun u _ => k u) =
      s.unwrapClaim.site? >>= fun u => u.elim (.ok missing) k := by
  unfold withUnwrapped unwrapClaim
  split
  · exact Value.withNode_eq ..
  · rfl

end Site

namespace Inspection

/-- What is found in a declaration list; nothing is an empty list. -/
def checkList (i : Inspection) (declarations : Value) : Except Fault (List Diagnostic) :=
  checkOrder i.policy (some i.source) declarations

/-- What is found in the object that a name stands for. -/
def checkVariable (i : Inspection) (identifier : Site) : Except Fault (List Diagnostic) := do
  match ← (← i.program.binding (identifier.get "name") (some identifier)).site? with
  | some bound => i.checkList (bound.get "properties")
  | none => return []

/-- Whether a callee is a wrapper function. -/
def isWrapper (i : Inspection) (callee : Value) : Except Fault Bool := do
  return (← Site.calleeName? callee).text?.any (Wrapper.recognizes i.wrappers)

/-! ### Expressions -/

/-- What is found in the object that an expression leads to, directly, behind a name or in the
first argument of a wrapper function. -/
def checkExpression (i : Inspection) (s : Site) : Except Fault (List Diagnostic) :=
  s.withUnwrapped [] fun u _ =>
    if u.kind == "ObjectExpression" then i.checkList (u.get "properties")
    else if u.isIdentifier then i.checkVariable u
    else if u.kind == "CallExpression" then
      match _hf : (u.get "arguments").first with
      | .error fault => .error fault
      | .ok inner =>
        if inner.isNull then return []
        else do
          if ← i.isWrapper (u.get "callee") then
            inner.withNode [] fun c _ => i.checkExpression c
          else return []
    else return []
termination_by sizeOf s.node
decreasing_by
  exact Nat.lt_of_lt_of_le
    (Site.sizeOf_lt_of_mem_get (Value.mem_nodeList_of_first _hf ‹_›)) ‹_›

/-- What is found in the object that a value leads to. -/
def checkExpression? (i : Inspection) (v : Value) : Except Fault (List Diagnostic) :=
  v.site? >>= fun s => s.elim (.ok []) i.checkExpression

/-- What is found in the object that an expression without a type claim leads to. -/
def checkUnwrapped (i : Inspection) (u : Site) : Except Fault (List Diagnostic) :=
  if u.kind == "ObjectExpression" then i.checkList (u.get "properties")
  else if u.isIdentifier then i.checkVariable u
  else if u.kind == "CallExpression" then do
    let inner ← (u.get "arguments").first
    if inner.isNull then return []
    else if ← i.isWrapper (u.get "callee") then i.checkExpression? inner
    else return []
  else return []

/-- The rule by which an expression leads to an object. -/
theorem checkExpression_eq (i : Inspection) (s : Site) :
    i.checkExpression s =
      s.unwrapClaim.site? >>= fun u => u.elim (.ok []) i.checkUnwrapped := by
  rw [checkExpression, ← Site.withUnwrapped_eq]
  congr 1
  funext u _
  simp only [Value.withNode_eq]
  unfold checkUnwrapped
  split
  · rfl
  split
  · rfl
  split
  · split <;> next h => rw [h]; rfl
  · rfl

/-! ### Types -/

/-- The type declaration that an item of the program is or exports. -/
def typeDeclaration? (e : Entry Site) : Except Fault (Option Site) := do
  let item ← e.site
  let declared ←
    if item.isExport then
      match ← (item.get "declaration").site? with
      | some declaration => pure declaration
      | none => pure item
    else pure item
  return if declared.isTypeDeclaration then some declared else none

/-- What is found in a type declaration, if it declares the given name. -/
def checkDeclarationOf (i : Inspection) (name : Value) (declaration : Site) :
    Except Fault (List Diagnostic) := do
  match ← (declaration.get "id").site? with
  | none => return []
  | some id =>
    if !(id.get "name").eqv name then return []
    else if declaration.kind == "TSInterfaceDeclaration" then
      match ← (declaration.get "body").site? with
      | some body => i.checkList (body.get "body")
      | none => return []
    else
      match ← (declaration.get "typeAnnotation").site? with
      | some type => i.checkList (type.get "members")
      | none => return []

/-- What is found in an item of the program, if it declares a type of the given name. -/
def checkItem (i : Inspection) (name : Value) (e : Entry Site) :
    Except Fault (List Diagnostic) := do
  match ← typeDeclaration? e with
  | some declaration => i.checkDeclarationOf name declaration
  | none => return []

/-- What is found in the declarations of a type name. -/
def checkTypeName (i : Inspection) (name : Value) : Except Fault (List Diagnostic) := do
  if !name.truthy then return []
  else
    let items ← (i.program.get "body").items
    return (← items.mapM (i.checkItem name)).flatten

/-- What is found in a type without an annotation around it. -/
def checkBareType (i : Inspection) (s : Site) : Except Fault (List Diagnostic) := do
  if s.kind == "TSTypeReference" then
    match ← (s.get "typeName").site? with
    | some name => i.checkTypeName (name.get "name")
    | none => return []
  else if s.kind == "TSTypeLiteral" then i.checkList (s.get "members")
  else return []

/-- What is found in a type or in the type of an annotation. -/
def checkType (i : Inspection) (v : Value) : Except Fault (List Diagnostic) := do
  match ← v.site? with
  | none => return []
  | some s =>
    if s.kind == "TSTypeAnnotation" then
      match ← (s.get "typeAnnotation").site? with
      | some inner => i.checkBareType inner
      | none => return []
    else i.checkBareType s

/-! ### Visits -/

/-- What is found at a call: the shape it makes, if shapes are looked at. -/
def visitCall (i : Inspection) (s : Site) : Except Fault (List Diagnostic) := do
  if !i.policy.sortShapeProp then return []
  else if !(← s.isShapeCall) then return []
  else
    let arguments := s.get "arguments"
    if !arguments.truthy then return []
    else
      match ← (← arguments.first).site? with
      | none => throw .notANode
      | some first =>
        if !(first.get "properties").isNull then i.checkList (first.get "properties")
        else if first.isIdentifier then i.checkVariable first
        else return []

/-- What is found at a field of a class. -/
def visitClassProperty (i : Inspection) (s : Site) : Except Fault (List Diagnostic) := do
  if ← s.isPropTypesDeclaration then i.checkExpression? (s.get "value") else return []

/-- What is found at a member that is assigned to. -/
def visitMember (i : Inspection) (s : Site) : Except Fault (List Diagnostic) := do
  if !(← s.isPropTypesDeclaration) then return []
  else
    match s.parent? with
    | some p => if s.isAssignmentTarget then i.checkExpression? (p.get "right") else return []
    | none => return []

/-- What is found at a member of an object. -/
def visitObjectMember (i : Inspection) (e : Entry Site) : Except Fault (List Diagnostic) := do
  let property ← e.site
  if (property.get "key").isNull then return []
  else if !(← property.isPropTypesDeclaration) then return []
  else
    match ← (property.get "value").site? with
    | none => return []
    | some value =>
      if value.kind == "ObjectExpression" then i.checkList (value.get "properties")
      else return []

/-- What is found at an object. -/
def visitObject (i : Inspection) (s : Site) : Except Fault (List Diagnostic) := do
  let members ← (s.get "properties").items
  return (← members.mapM i.visitObjectMember).flatten

/-- What is found at a class: the first type argument of its base class, if it is a component. -/
def visitClass (i : Inspection) (s : Site) : Except Fault (List Diagnostic) := do
  match ← (s.get "superTypeParameters").site? with
  | none => return []
  | some arguments =>
    let params := arguments.get "params"
    if !params.truthy then return []
    else if (Component.find? i.components s).isNone then return []
    else i.checkType (← params.first)

/-- A parameter of a function; a default is looked through. -/
def parameter (e : Entry Site) : Except Fault Value := do
  let param ← e.site
  return if param.kind == "AssignmentPattern" then param.get "left" else .node param

/-- The annotation of a parameter. -/
def typeOf (param : Value) : Except Fault Value := do
  match ← param.site? with
  | some p => return p.get "typeAnnotation"
  | none => return .null

/-- What is found at a function: the types of its parameters, if it is a component. -/
def visitFunction (i : Inspection) (s : Site) : Except Fault (List Diagnostic) := do
  let params ← (← (s.get "params").items).mapM parameter
  let types := (← params.mapM typeOf).filter (!·.isNull)
  if types.isEmpty || (Component.find? i.components s).isNone then return []
  else return (← types.mapM i.checkType).flatten

/-- What is found at a node itself. -/
def visit (i : Inspection) (s : Site) : Except Fault (List Diagnostic) :=
  if s.kind == "CallExpression" then i.visitCall s
  else if s.kind == "ClassProperty" then i.visitClassProperty s
  else if s.kind == "MemberExpression" then i.visitMember s
  else if s.kind == "ObjectExpression" then i.visitObject s
  else if s.isClass then i.visitClass s
  else if s.isFunctionLike then i.visitFunction s
  else return []

/-- What is found at a node and under it. -/
def run (i : Inspection) (s : Site) : Except Fault (List Diagnostic) :=
  return (← s.walk.mapM i.visit).flatten

end Inspection

end PropOrder
