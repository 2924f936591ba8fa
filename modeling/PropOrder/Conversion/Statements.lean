import PropOrder.Conversion.Form

/-!
# Statements

What the concrete nodes of statements become.
-/

namespace PropOrder.Conversion

/-- A whole program. -/
def program : Rule := fun f => do
  return f.node "Program" [("body", .nodes (← f.allConstituents)), ("sourceType", .string "module")]

/-- An expression that stands as a statement. -/
def expressionStatement : Rule := fun f => do
  return f.node "ExpressionStatement" [("expression", .ofOption (← f.firstConstituent))]

/-- Statements in braces. -/
def block : Rule := fun f => do
  return f.node "BlockStatement" [("body", .nodes (← f.allConstituents))]

/-- A return from a function. -/
def returnStatement : Rule := fun f => do
  return f.node "ReturnStatement" [("argument", .ofOption (← f.firstConstituent))]

/-- The branch that an `else` leads to; an else clause stands for what it holds. -/
def elseBranch? (f : Form) : Option Converted :=
  match f.child? "alternative" with
  | some clause =>
    if clause.kind == "else_clause" then clause.constituents.head? else some clause
  | none => none

/-- A choice between statements. -/
def ifStatement : Rule := fun f => do
  let alternate ← Form.converted (elseBranch? f)
  let test ← f.field "condition"
  let consequent ← f.field "consequence"
  return f.node "IfStatement"
    [("test", .ofOption test), ("consequent", .ofOption consequent),
      ("alternate", .ofOption alternate)]

/-- A loop with its test in front. -/
def whileStatement : Rule := fun f => do
  let test ← f.field "condition"
  let body ← f.field "body"
  return f.node "WhileStatement" [("test", .ofOption test), ("body", .ofOption body)]

/-- A loop with its test at the end. -/
def doWhileStatement : Rule := fun f => do
  let body ← f.field "body"
  let test ← f.field "condition"
  return f.node "DoWhileStatement" [("body", .ofOption body), ("test", .ofOption test)]

/-- A counting loop. -/
def forStatement : Rule := fun f => do
  let init ← f.field "initializer"
  let test ← f.field "condition"
  let update ← f.field "increment"
  let body ← f.field "body"
  return f.node "ForStatement"
    [("init", .ofOption init), ("test", .ofOption test), ("update", .ofOption update),
      ("body", .ofOption body)]

/-- The word that declares the variable of a loop over something, if it has one. -/
def loopKeyword? (f : Form) : Option String :=
  (f.parts.find? fun p => !p.head.named && ["var", "let", "const"].contains p.kind).map (·.kind)

/-- The variable of a loop over something; where a word declares it, it is a declaration. -/
def loopTarget (f : Form) : Except Fault (Option Node) :=
  match f.child? "left" with
  | none => return none
  | some p => do
    let left ← p.value
    match loopKeyword? f with
    | none => return some left
    | some word =>
      let declarator := f.nodeAt p.span "VariableDeclarator" [("id", .node left), ("init", .null)]
      return some (f.nodeAt p.span "VariableDeclaration"
        [("kind", .string word), ("declarations", .nodes [declarator])])

/-- A loop over the keys or the items of something. -/
def forInStatement : Rule := fun f => do
  let left ← loopTarget f
  let right ← f.field "right"
  let body ← f.field "body"
  return f.node (if f.hasToken "of" then "ForOfStatement" else "ForInStatement")
    [("left", .ofOption left), ("right", .ofOption right), ("body", .ofOption body)]

/-- A case of a switch. All parts held under its body but comments are its statements. -/
def switchCase : Rule := fun f => do
  let test ← f.field "value"
  let consequent ← (f.parts.filter fun p => p.head.field == "body" && p.kind != "comment").mapM
    Part.value
  return f.node "SwitchCase" [("test", .ofOption test), ("consequent", .nodes consequent)]

/-- The cases of a switch among the constituents of its body. -/
def switchCases (f : Form) : List Converted :=
  match f.child? "body" with
  | some body =>
    body.constituents.filter fun p => p.kind == "switch_case" || p.kind == "switch_default"
  | none => []

/-- A choice between cases. -/
def switchStatement : Rule := fun f => do
  let cases ← (switchCases f).mapM fun p => switchCase (f.inside p)
  let discriminant ← f.field "value"
  return f.node "SwitchStatement"
    [("discriminant", .ofOption discriminant), ("cases", .nodes cases)]

/-- The handler of a failure. -/
def catchClause : Rule := fun f => do
  let param ← f.field "parameter"
  let body ← f.field "body"
  return f.node "CatchClause" [("param", .ofOption param), ("body", .ofOption body)]

/-- One variable of a declaration. -/
def variableDeclarator : Rule := fun f => do
  let id ← f.field "name"
  let init ← f.field "value"
  return f.node "VariableDeclarator" [("id", .ofOption id), ("init", .ofOption init)]

/-- A declaration of variables; its first part is the word that declares them. -/
def variableDeclaration : Rule := fun f => do
  let declarators := f.constituents.filter (·.kind == "variable_declarator")
  let declarations ← declarators.mapM fun p => variableDeclarator (f.inside p)
  let word := match f.parts with
    | [] => "var"
    | p :: _ => p.kind
  return f.node "VariableDeclaration"
    [("kind", .string word), ("declarations", .nodes declarations)]

/-- An export. A default export may be of a value; an export of no declaration keeps its
constituents. -/
def exportStatement : Rule := fun f => do
  let declaration ← f.field "declaration"
  if f.hasToken "default" then
    let declaration ← match declaration with
      | some n => pure (some n)
      | none => f.field "value"
    return f.node "ExportDefaultDeclaration" [("declaration", .ofOption declaration)]
  else
    match declaration with
    | some n => return f.node "ExportNamedDeclaration" [("declaration", .node n)]
    | none =>
      return f.node "ExportNamedDeclaration"
        [("declaration", .null), ("children", .nodes (← f.allConstituents))]

end PropOrder.Conversion
