import PropOrder.Keys

/-!
# Bindings

What a name stands for at a node. The statement lists around the node are searched from the inside
out, the list of the program last, and the first declaration of the name in the first list that
has one decides.
-/

namespace PropOrder

namespace Site

/-- The statement list that a node holds, if it holds one. -/
def statementList? (s : Site) : Option Value :=
  if s.kind == "SwitchCase" then some (s.get "consequent")
  else match s.get "body" with
    | .many es => some (.many es)
    | .one _ => none

/-- The statement lists around a node, the nearest first and that of the program last. -/
def statementLists (program : Site) (s : Option Site) : List Value :=
  let around := match s with
    | some s => s.lineage.dropLast.filterMap statementList?
    | none => []
  around ++ [program.get "body"]

/-- What a declarator binds, if its target is the given name. -/
def bindingOfDeclarator (name : Value) (e : Entry Site) : Except Fault (Option Value) := do
  let declarator ← e.site
  match ← (declarator.get "id").site? with
  | none => return none
  | some target =>
    if target.isIdentifier && (target.get "name").eqv name then
      return some (← unwrapClaim? (declarator.get "init"))
    else return none

/-- The first answer among those for the items of a list. -/
def firstAnswer {α β : Type} (f : α → Except Fault (Option β)) : List α → Except Fault (Option β)
  | [] => return none
  | a :: rest => do
    match ← f a with
    | some b => return some b
    | none => firstAnswer f rest

/-- What a declaration binds the given name to, if it declares the name. -/
def bindingOfDeclaration (name : Value) (s : Site) : Except Fault (Option Value) := do
  if s.kind == "VariableDeclaration" then
    firstAnswer (bindingOfDeclarator name) (← (s.get "declarations").items)
  else if s.kind == "TypeAlias" then
    match ← (s.get "id").site? with
    | some id => return if (id.get "name").eqv name then some (s.get "right") else none
    | none => return none
  else return none

/-- What a statement binds the given name to; an export is looked through. -/
def bindingOfStatement (name : Value) (e : Entry Site) : Except Fault (Option Value) := do
  let s ← e.site
  if s.isExport then
    match ← (s.get "declaration").site? with
    | some declaration => bindingOfDeclaration name declaration
    | none => return none
  else bindingOfDeclaration name s

/-- What the statements of a list bind the given name to. -/
def bindingInList (name : Value) (statements : Value) : Except Fault (Option Value) := do
  firstAnswer (bindingOfStatement name) (← statements.items)

/-- What a name stands for at a node of a program; nothing if no declaration of it is found, or the
one found has no initializer. -/
def binding (program : Site) (name : Value) (s : Option Site) : Except Fault Value := do
  return (← firstAnswer (bindingInList name) (statementLists program s)).getD .null

end Site

end PropOrder
