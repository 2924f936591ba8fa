import PropOrder.Conversion.Functions
import PropOrder.Number.Numeral
import PropOrder.Text.Escape

/-!
# Expressions

What the concrete nodes of names, literals, operations and embedded markup become. Parentheses
around a single expression leave no trace.
-/

namespace PropOrder.Conversion

/-- A name of any sort. -/
def identifier : Rule := fun f => return f.node "Identifier" [("name", .text f.text)]

/-! ### Literals -/

/-- A literal with its value and its spelling. -/
def literal (f : Form) (value : Slot Node) (raw : Text) : Node :=
  f.node "Literal" [("value", value), ("raw", .text raw)]

/-- A quoted literal. -/
def stringLiteral : Rule := fun f => do
  return literal f (.text (← Text.literalValue f.text)) f.text

/-- The value of a number literal: what its numeral reads as, or else its spelling. -/
def numberValue (raw : Text) : Scalar :=
  match Numeral.readSpaced? raw with
  | some (.int n) => .int n
  | some (.real x) => .real x
  | none => .text raw

/-- A number literal. -/
def numberLiteral : Rule := fun f => return literal f (.one (.scalar (numberValue f.text))) f.text

/-- A literal that is a word. -/
def constant (value : Slot Node) : Rule := fun f => return literal f value (.ofString f.kind)

/-- The receiver of a method. -/
def thisExpression : Rule := fun f => return f.node "ThisExpression" []

/-- A template. -/
def template : Rule := fun f => do
  return f.node "TemplateLiteral"
    [("raw", .text f.text), ("children", .nodes (← f.allConstituents))]

/-! ### Objects and arrays -/

/-- A property of an object. -/
def property (f : Form) (key value : Option Node) (computed shorthand method : Bool) : Node :=
  f.node "Property"
    [("key", .ofOption key), ("value", .ofOption value), ("computed", .bool computed),
      ("shorthand", .bool shorthand), ("method", .bool method), ("kind", .string "init")]

/-- A property with a key and a value. -/
def pairProperty : Rule := fun f => do
  let (key, computed) ← Form.keyOf (f.child? "key")
  let value ← f.field "value"
  return property f key value computed false false

/-- A property that is a method. -/
def methodProperty : Rule := fun f => do
  let (key, computed) ← Form.keyOf (f.child? "name")
  let value ← methodFunction f
  return property f key (some value) computed false true

/-- A constituent of an object. A name alone is both key and value. -/
def objectMember (f : Form) (p : Converted) : Except Fault Node :=
  if p.kind == "pair" then pairProperty (f.inside p)
  else if p.kind == "shorthand_property_identifier" then do
    let name ← p.value
    return property (f.inside p) (some name) (some name) false true false
  else if p.kind == "method_definition" then methodProperty (f.inside p)
  else p.value

/-- An object. -/
def object : Rule := fun f => do
  return f.node "ObjectExpression"
    [("properties", .nodes (← f.constituents.mapM (objectMember f)))]

/-- A pattern that takes an object apart. -/
def objectPattern : Rule := fun f => do
  return f.node "ObjectPattern" [("properties", .nodes (← f.allConstituents))]

/-- A pattern with a default. -/
def assignmentPattern : Rule := fun f => do
  let left ← f.field "left"
  let right ← f.field "right"
  return f.node "AssignmentPattern" [("left", .ofOption left), ("right", .ofOption right)]

/-- A pattern for all that is left. -/
def restElement : Rule := fun f => do
  return f.node "RestElement" [("argument", .ofOption (← f.firstConstituent))]

/-- All items of something, put in place. -/
def spreadElement : Rule := fun f => do
  return f.node "SpreadElement" [("argument", .ofOption (← f.firstConstituent))]

/-- An array. -/
def array : Rule := fun f => do
  return f.node "ArrayExpression" [("elements", .nodes (← f.allConstituents))]

/-! ### Access and calls -/

/-- Access to a member by its name. -/
def member : Rule := fun f => do
  let object ← f.field "object"
  let property ← f.field "property"
  return f.node "MemberExpression"
    [("object", .ofOption object), ("property", .ofOption property), ("computed", .bool false),
      ("optional", .bool (f.hasToken "?."))]

/-- Access to a member by an expression. -/
def subscript : Rule := fun f => do
  let object ← f.field "object"
  let property ← f.field "index"
  return f.node "MemberExpression"
    [("object", .ofOption object), ("property", .ofOption property), ("computed", .bool true),
      ("optional", .bool (f.hasToken "?."))]

/-- The arguments of a call. -/
def arguments (p : Option Converted) : Except Fault (List Node) :=
  match p with
  | some p => p.constituents.mapM Part.value
  | none => return []

/-- A call; a template in the place of the arguments is tagged. -/
def call : Rule := fun f => do
  let callee ← f.field "function"
  match f.child? "arguments" with
  | some p =>
    if p.kind == "template_string" then
      let quasi ← p.value
      return f.node "TaggedTemplateExpression" [("tag", .ofOption callee), ("quasi", .node quasi)]
    else ordinary f callee
  | none => ordinary f callee
where
  ordinary (f : Form) (callee : Option Node) : Except Fault Node := do
    let arguments ← arguments (f.child? "arguments")
    let typeArguments ← f.field "type_arguments"
    return f.node "CallExpression"
      [("callee", .ofOption callee), ("arguments", .nodes arguments),
        ("typeParameters", .ofOption typeArguments)]

/-- A call of a constructor. -/
def newExpression : Rule := fun f => do
  let callee ← f.field "constructor"
  let arguments ← arguments (f.child? "arguments")
  return f.node "NewExpression" [("callee", .ofOption callee), ("arguments", .nodes arguments)]

/-! ### Operations -/

/-- The operator of an operation, or what stands for a missing one. -/
def operatorOr (f : Form) (missing : String) : String :=
  match f.child? "operator" with
  | some p => p.kind
  | none => missing

/-- An assignment. -/
def assignment : Rule := fun f => do
  let left ← f.field "left"
  let right ← f.field "right"
  return f.node "AssignmentExpression"
    [("operator", .string (operatorOr f "=")), ("left", .ofOption left),
      ("right", .ofOption right)]

/-- A choice between expressions. -/
def conditional : Rule := fun f => do
  let test ← f.field "condition"
  let consequent ← f.field "consequence"
  let alternate ← f.field "alternative"
  return f.node "ConditionalExpression"
    [("test", .ofOption test), ("consequent", .ofOption consequent),
      ("alternate", .ofOption alternate)]

/-- The operators that may leave their second operand aside. -/
def logicalOperators : List String := ["&&", "||", "??"]

/-- An operation on two operands. -/
def binary : Rule := fun f => do
  let operator := operatorOr f ""
  let left ← f.field "left"
  let right ← f.field "right"
  return f.node
    (if logicalOperators.contains operator then "LogicalExpression" else "BinaryExpression")
    [("operator", .string operator), ("left", .ofOption left), ("right", .ofOption right)]

/-- An operation on one operand. -/
def unary : Rule := fun f => do
  let argument ← f.field "argument"
  return f.node "UnaryExpression"
    [("operator", .string (operatorOr f "")), ("argument", .ofOption argument)]

/-- Expressions in parentheses: a single one stands for itself. -/
def parenthesized : Rule := fun f =>
  match f.constituents with
  | [p] => p.value
  | _ => do return f.node "SequenceExpression" [("expressions", .nodes (← f.allConstituents))]

/-- A value handed out by a generator. -/
def yieldExpression : Rule := fun f => do
  return f.node "YieldExpression"
    [("argument", .ofOption (← f.firstConstituent)), ("delegate", .bool (f.hasToken "*"))]

/-- A value waited for. -/
def awaitExpression : Rule := fun f => do
  return f.node "AwaitExpression" [("argument", .ofOption (← f.firstConstituent))]

/-! ### Markup -/

/-- Embedded markup; tags without a name make a fragment. -/
def markup : Rule := fun f => do
  let nameless := (f.child? "open_tag").any fun tag => (tag.child? "name").isNone
  let fragment := f.kind == "jsx_fragment" || (f.kind == "jsx_element" && nameless)
  return f.node (if fragment then "JSXFragment" else "JSXElement")
    [("children", .nodes (← f.allConstituents))]

end PropOrder.Conversion
