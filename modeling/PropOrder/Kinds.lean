import PropOrder.Site

/-!
# Classes of nodes

The classes that the analyses sort nodes into, by their kinds and, for the target of an
assignment, by their place.
-/

namespace PropOrder

/-- Whether a value is a given site. -/
def Value.isSite (v : Value) (s : Site) : Bool :=
  match v with
  | .one (.node t) => t.same s
  | _ => false

namespace Site

/-- Whether a node is a function of any form. -/
def isFunctionLike (s : Site) : Bool :=
  s.kind == "FunctionDeclaration" || s.kind == "FunctionExpression" ||
    s.kind == "ArrowFunctionExpression"

/-- Whether a node is a function that is not written with an arrow. -/
def isPlainFunction (s : Site) : Bool :=
  s.kind == "FunctionExpression" || s.kind == "FunctionDeclaration"

/-- Whether a node is a function that is an expression. -/
def isFunctionExpression (s : Site) : Bool :=
  s.kind == "FunctionExpression" || s.kind == "ArrowFunctionExpression"

/-- The kinds of statements whose single, unbraced body may be looked through for a return. -/
def transparentKinds : List String :=
  ["WhileStatement", "DoWhileStatement", "ForStatement", "ForInStatement", "ForOfStatement",
    "IfStatement", "ExpressionStatement"]

/-- Whether the single, unbraced body of a statement may be looked through for a return. -/
def isTransparent (s : Site) : Bool := transparentKinds.contains s.kind

/-- Whether a node is a class. -/
def isClass (s : Site) : Bool := s.kind == "ClassDeclaration" || s.kind == "ClassExpression"

/-- Whether a node is a statement in braces. -/
def isBlock (s : Site) : Bool := s.kind == "BlockStatement"

/-- Whether a node hands a value out of a function. -/
def isReturn (s : Site) : Bool := s.kind == "ReturnStatement" || s.kind == "YieldExpression"

/-- Whether a node is a name. -/
def isIdentifier (s : Site) : Bool := s.kind == "Identifier"

/-- Whether a node exports something. -/
def isExport (s : Site) : Bool :=
  s.kind == "ExportNamedDeclaration" || s.kind == "ExportDefaultDeclaration"

/-- Whether a node is the target of an assignment. -/
def isAssignmentTarget (s : Site) : Bool :=
  match s.parent? with
  | some p => p.kind == "AssignmentExpression" && (p.get "left").isSite s
  | none => false

/-! ### Ownership -/

/-- The nearest of a node and its ancestors that is a given node or a function. -/
def nearestBoundary? (s owner : Site) : Option Site :=
  s.lineage.find? fun a => a.same owner || a.isFunctionLike

/-- Whether a node is a given node or lies under it without a function in between. -/
def ownedBy (s owner : Site) : Bool := (s.nearestBoundary? owner).any (·.same owner)

end Site

end PropOrder
