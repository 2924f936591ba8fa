import PropOrder.Inspection

/-!
# Routes to declaration lists

Which lists the ordering rule comes to from a node of a program, said as relations between nodes.
`LeadsTo` follows an expression through type claims, wrapper functions and names to the node at
its end, `TypeMembers` follows a type to the lists of its members, and `ChecksAt` says which lists
are checked at a node, one case for each sort of node that the rule looks at.
-/

namespace PropOrder

namespace Site

/-- A node is an identifier of the given name. -/
structure IsNamed (s : Site) (name : String) : Prop where
  kind : s.kind = "Identifier"
  name : s.get "name" = .text (.ofString name)

/-- A name stands for a node of the program. -/
def StandsFor (program name s : Site) : Prop :=
  program.binding (name.get "name") (some name) = .ok (.node s)

end Site

namespace Inspection
open Site

/-! ### Expressions -/

/-- A call of a wrapper function and its first argument. -/
structure Wraps (wrappers : List Wrapper) (call argument : Site) : Prop where
  kind : call.kind = "CallExpression"
  callee : ∃ name, calleeName? (call.get "callee") = .ok (.text name) ∧
    Wrapper.recognizes wrappers name = true
  first : (call.get "arguments").nodeList.head? = some argument

/-- An expression leads to a node: without the type claim around it, an object leads to itself, a
name to what it stands for, and a call of a wrapper function to what its first argument leads
to. -/
inductive LeadsTo (program : Site) (wrappers : List Wrapper) : Site → Site → Prop
  /-- An object. -/
  | object {s u : Site} (inside : s.unwrapClaim = .node u) (kind : u.kind = "ObjectExpression") :
    LeadsTo program wrappers s u
  /-- A name. -/
  | name {s u o : Site} (inside : s.unwrapClaim = .node u) (kind : u.kind = "Identifier")
    (bound : StandsFor program u o) : LeadsTo program wrappers s o
  /-- A call of a wrapper function. -/
  | wrapper {s u c o : Site} (inside : s.unwrapClaim = .node u) (wraps : Wraps wrappers u c)
    (rest : LeadsTo program wrappers c o) : LeadsTo program wrappers s o

/-! ### Types -/

/-- The type that an annotation holds; any other node is a type itself. -/
def bareType (s : Site) : Value :=
  if s.kind == "TSTypeAnnotation" then s.get "typeAnnotation" else .node s

/-- A type declaration that an item of a program is or exports. -/
structure Declares (item declaration : Site) : Prop where
  place : declaration = item ∨ (item.isExport = true ∧ item.get "declaration" = .node declaration)
  declares : declaration.isTypeDeclaration = true

/-- A declaration declares a name. -/
def DeclaresName (declaration : Site) (name : Value) : Prop :=
  ∃ id, declaration.get "id" = .node id ∧ (id.get "name").eqv name = true

/-- The members that a type declaration lists: those of an interface, or those of the type on the
right side of an alias. -/
def OwnMembers (declaration : Site) (L : Value) : Prop :=
  if declaration.kind = "TSInterfaceDeclaration" then
    ∃ body, declaration.get "body" = .node body ∧ L = body.get "body"
  else ∃ type, declaration.get "typeAnnotation" = .node type ∧ L = type.get "members"

/-- The lists of members that the declarations of a program give to a type name. -/
def NamedMembers (program : Site) (name L : Value) : Prop :=
  name.truthy = true ∧ ∃ item ∈ (program.get "body").nodeList, ∃ declaration,
    Declares item declaration ∧ DeclaresName declaration name ∧ OwnMembers declaration L

/-- The lists of members of a type: those of a literal, or those that its name is given. -/
inductive TypeMembers (program type : Site) : Value → Prop
  /-- The members of a type literal. -/
  | literal (kind : type.kind = "TSTypeLiteral") : TypeMembers program type (type.get "members")
  /-- The members that a name is given. -/
  | reference {name : Site} {L : Value} (kind : type.kind = "TSTypeReference")
    (given : type.get "typeName" = .node name) (named : NamedMembers program (name.get "name") L) :
    TypeMembers program type L

/-! ### Nodes -/

section Nodes
variable (i : Inspection) (s : Site)

/-- The properties that an argument has, or those of what it stands for if it is a name. -/
def ArgumentProperties (program c : Site) (L : Value) : Prop :=
  if (c.get "properties").isNull then
    c.kind = "Identifier" ∧ ∃ o, StandsFor program c o ∧ L = o.get "properties"
  else L = c.get "properties"

/-- The list that a call of a member called `shape` makes a shape of. -/
def ShapeList (L : Value) : Prop :=
  i.policy.sortShapeProp = true ∧ s.isShapeCall = .ok true ∧
    ∃ c, (s.get "arguments").nodeList.head? = some c ∧ ArgumentProperties i.program c L

/-- The properties of the node that the value of a field leads to. -/
def LedList (name : String) (L : Value) : Prop :=
  ∃ e o, s.get name = .node e ∧ LeadsTo i.program i.wrappers e o ∧ L = o.get "properties"

/-- The list that a field of a class declares props with. -/
def FieldList (L : Value) : Prop := s.isPropTypesDeclaration = .ok true ∧ LedList i s "value" L

/-- The list that a member of something is assigned. -/
def AssignedList (L : Value) : Prop :=
  s.isPropTypesDeclaration = .ok true ∧ s.isAssignmentTarget = true ∧
    ∃ p, s.parent? = some p ∧ LedList i p "right" L

/-- The list that a member of an object declares props with. -/
def KeyedList (member : Site) (L : Value) : Prop :=
  (member.get "key").isNull = false ∧ member.isPropTypesDeclaration = .ok true ∧
    ∃ o, member.get "value" = .node o ∧ o.kind = "ObjectExpression" ∧ L = o.get "properties"

/-- The members of a type that stands in a list or in an annotation. -/
def ListedMembers (program t : Site) (L : Value) : Prop :=
  ∃ b, bareType t = .node b ∧ TypeMembers program b L

/-- The lists of members of the first type argument of the base class of a component. -/
def BaseList (L : Value) : Prop :=
  (Component.find? i.components s).isSome = true ∧ ∃ a, s.get "superTypeParameters" = .node a ∧
    ∃ t, (a.get "params").nodeList.head? = some t ∧ ListedMembers i.program t L

/-- The pattern of a parameter, without its default. -/
def pattern (param : Site) : Value :=
  if param.kind == "AssignmentPattern" then param.get "left" else .node param

/-- The lists of members of the types of the parameters of a component. -/
def ParameterList (L : Value) : Prop :=
  (Component.find? i.components s).isSome = true ∧ ∃ p ∈ (s.get "params").nodeList, ∃ q a,
    pattern p = .node q ∧ q.get "typeAnnotation" = .node a ∧ ListedMembers i.program a L

/-- The lists that are checked at a node. -/
def ChecksAt (L : Value) : Prop :=
  (s.kind = "CallExpression" ∧ ShapeList i s L) ∨
  (s.kind = "ClassProperty" ∧ FieldList i s L) ∨
  (s.kind = "MemberExpression" ∧ AssignedList i s L) ∨
  (s.kind = "ObjectExpression" ∧ ∃ member ∈ (s.get "properties").nodeList, KeyedList member L) ∨
  (s.isClass = true ∧ BaseList i s L) ∨
  (s.isFunctionLike = true ∧ ParameterList i s L)

end Nodes

end Inspection

end PropOrder
