import PropOrder.Kinds
import PropOrder.Value

/-!
# Scopes

The lexical scopes of a program, in the order in which their blocks begin. The body of a function
shares the scope of the function.
-/

namespace PropOrder

/-- What opens a scope. -/
inductive ScopeKind where
  /-- The program. -/
  | global
  /-- A function. -/
  | function
  /-- Statements in braces. -/
  | block
  /-- A choice between cases. -/
  | switch
  /-- A loop that declares a variable of its own. -/
  | loop
  /-- The handler of a failure. -/
  | handler
  /-- A class. -/
  | classBody
  deriving DecidableEq, Repr

/-- The name of a kind of scope. -/
def ScopeKind.name : ScopeKind → String
  | global => "global"
  | function => "function"
  | block => "block"
  | switch => "switch"
  | loop => "for"
  | handler => "catch"
  | classBody => "class"

/-- A scope and the node that opens it. -/
structure Scope where
  /-- What kind of scope it is. -/
  kind : ScopeKind
  /-- The node that opens it. -/
  block : Site

namespace Site

/-- Whether a value declares variables that belong to the block around them. -/
def declaresInBlock (v : Value) : Except Fault Bool := do
  match ← v.site? with
  | some s =>
    let word := s.get "kind"
    return s.kind == "VariableDeclaration" && (word.isText "let" || word.isText "const")
  | none => return false

/-- Whether a node is the body of a function. -/
def isFunctionBody (s : Site) : Bool :=
  match s.parent? with
  | some p => p.isFunctionLike && (p.get "body").isSite s
  | none => false

/-- The scope of a loop whose head holds its declaration in a field. -/
def loopScope? (s : Site) (head : String) : Except Fault (Option ScopeKind) := do
  return if ← declaresInBlock (s.get head) then some .loop else none

/-- The kind of the scope that a node opens. -/
def scopeKind? (s : Site) : Except Fault (Option ScopeKind) :=
  if s.kind == "Program" then return some .global
  else if s.isFunctionLike then return some .function
  else if s.isBlock then return if s.isFunctionBody then none else some .block
  else if s.kind == "SwitchStatement" then return some .switch
  else if s.kind == "ForStatement" then s.loopScope? "init"
  else if s.kind == "ForInStatement" || s.kind == "ForOfStatement" then s.loopScope? "left"
  else if s.kind == "CatchClause" then return some .handler
  else if s.isClass then return some .classBody
  else return none

/-- The scope that a node opens. -/
def scope? (s : Site) : Except Fault (Option Scope) := do
  return (← s.scopeKind?).map fun kind => ⟨kind, s⟩

end Site

namespace Scope

/-- The scopes of a program. -/
def all (program : Site) : Except Fault (List Scope) := do
  return (← program.walk.mapM Site.scope?).filterMap id

/-- The scopes that belong to a node: those opened by it, or under it without a function in
between. -/
def ownedBy (owner : Site) (scopes : List Scope) : List Scope :=
  scopes.filter (·.block.ownedBy owner)

end Scope

end PropOrder
