import PropOrder.Conversion.Form

/-!
# Functions and classes

What the concrete nodes of functions, their parameters, classes and class members become.
-/

namespace PropOrder.Conversion

/-! ### Functions -/

/-- The pattern of a typed parameter, with its annotation and its mark of being optional on it;
a default makes it an assignment pattern. A parameter without a pattern is left out. -/
def typedParameter (f : Form) : Except Fault (Option Node) := do
  match ← f.field "pattern" with
  | none => return none
  | some pattern =>
    let annotated := match ← f.field "type" with
      | some annotation => pattern.set "typeAnnotation" (.node annotation)
      | none => pattern
    let marked :=
      if f.kind == "optional_parameter" then annotated.set "optional" (.bool true) else annotated
    match ← f.field "value" with
    | some default =>
      return some (f.node "AssignmentPattern" [("left", .node marked), ("right", .node default)])
    | none => return some marked

/-- What a parameter becomes. -/
def parameter (f : Form) (p : Converted) : Except Fault (Option Node) :=
  if p.kind == "required_parameter" || p.kind == "optional_parameter" then
    typedParameter (f.inside p)
  else return some (← p.value)

/-- The parameters of a function, given in parentheses or as a single name. -/
def parameters (f : Form) (p : Option Converted) : Except Fault (List Node) :=
  match p with
  | none => return []
  | some p =>
    if p.kind == "formal_parameters" then
      return (← p.constituents.mapM (parameter f)).filterMap id
    else return [← p.value]

/-- The function that a method holds. -/
def methodFunction : Rule := fun f => do
  let params ← parameters f (f.child? "parameters")
  let body ← f.field "body"
  return f.node "FunctionExpression"
    [("id", .null), ("params", .nodes params), ("body", .ofOption body),
      ("generator", .bool (f.hasToken "*")), ("async_", .bool (f.hasToken "async"))]

/-- A function with a body in braces. -/
def function : Rule := fun f => do
  let declares := f.kind == "function_declaration" || f.kind == "generator_function_declaration"
  let generates := f.kind == "generator_function" || f.kind == "generator_function_declaration"
  let id ← f.field "name"
  let params ← parameters f (f.child? "parameters")
  let body ← f.field "body"
  return f.node (if declares then "FunctionDeclaration" else "FunctionExpression")
    [("id", .ofOption id), ("params", .nodes params), ("body", .ofOption body),
      ("generator", .bool generates), ("async_", .bool (f.hasToken "async"))]

/-- A function written with an arrow; without braces its body is an expression. -/
def arrowFunction : Rule := fun f => do
  let params ← parameters f ((f.child? "parameter").or (f.child? "parameters"))
  let body ← f.field "body"
  return f.node "ArrowFunctionExpression"
    [("id", .null), ("params", .nodes params), ("body", .ofOption body),
      ("expression", .bool (body.any (·.kind != "BlockStatement"))),
      ("async_", .bool (f.hasToken "async"))]

/-! ### Class members -/

/-- What kind of method a method definition is. -/
def methodKind (f : Form) (key : Option Node) : String :=
  if f.hasToken "get" then "get"
  else if f.hasToken "set" then "set"
  else if key.any fun k => (k.get "name").isText "constructor" then "constructor"
  else "method"

/-- A method of a class. -/
def methodDefinition : Rule := fun f => do
  let (key, computed) ← Form.keyOf (f.child? "name")
  let value ← methodFunction f
  return f.node "MethodDefinition"
    [("key", .ofOption key), ("value", .node value), ("kind", .string (methodKind f key)),
      ("computed", .bool computed), ("static", .bool (f.hasToken "static"))]

/-- A field of a class. -/
def classProperty : Rule := fun f => do
  let (key, computed) ← Form.keyOf ((f.child? "name").or (f.child? "property"))
  let value ← f.field "value"
  let annotation ← f.field "type"
  return f.node "ClassProperty"
    [("key", .ofOption key), ("value", .ofOption value), ("typeAnnotation", .ofOption annotation),
      ("computed", .bool computed), ("static", .bool (f.hasToken "static"))]

/-- A member of a class. -/
def classMember (f : Form) (p : Converted) : Except Fault Node :=
  if p.kind == "method_definition" then methodDefinition (f.inside p)
  else if p.kind == "public_field_definition" || p.kind == "field_definition" then
    classProperty (f.inside p)
  else p.value

/-! ### Classes -/

/-- A base class and the arguments for its type parameters. -/
structure Base where
  /-- The expression that gives the base class. -/
  superClass : Option Node
  /-- The arguments for the type parameters of the base class. -/
  typeArguments : Option Node

/-- The base class of an extends clause. A base class with type arguments may be read as one
instantiation, which is taken apart. -/
def extendsBase (clause : Converted) : Except Fault Base := do
  match clause.child? "value" with
  | some value =>
    if value.kind == "instantiation_expression" then
      match value.constituents with
      | [] => throw .noSuchItem
      | first :: _ =>
        let superClass ← first.value
        let arguments := value.parts.find? fun p => p.head.named && p.kind == "type_arguments"
        return ⟨some superClass, ← Form.converted arguments⟩
    else
      let superClass ← value.value
      return ⟨some superClass, ← Form.converted (clause.child? "type_arguments")⟩
  | none => return ⟨none, ← Form.converted (clause.child? "type_arguments")⟩

/-- The base class of a class, from an extends clause or from the heritage itself. -/
def classBase (f : Form) : Except Fault Base := do
  match f.constituents.find? (·.kind == "class_heritage") with
  | none => return ⟨none, none⟩
  | some heritage =>
    match heritage.constituents.find? (·.kind == "extends_clause") with
    | some clause => extendsBase clause
    | none =>
      match heritage.parts.find? (·.head.named) with
      | some first =>
        if first.kind == "implements_clause" then return ⟨none, none⟩
        else return ⟨some (← first.value), none⟩
      | none => return ⟨none, none⟩

/-- The body of a class; a class without one has an empty body over its own span. -/
def classBody (f : Form) : Except Fault Node := do
  match f.child? "body" with
  | some body =>
    let members ← body.constituents.mapM (classMember f)
    return f.nodeAt body.span "ClassBody" [("body", .nodes members)]
  | none => return f.node "ClassBody" [("body", .nodes [])]

/-- A class. -/
def classDefinition : Rule := fun f => do
  let base ← classBase f
  let body ← classBody f
  let id ← f.field "name"
  return f.node (if f.kind == "class" then "ClassExpression" else "ClassDeclaration")
    [("id", .ofOption id), ("superClass", .ofOption base.superClass),
      ("superTypeParameters", .ofOption base.typeArguments), ("body", .node body)]

end PropOrder.Conversion
