import PropOrder.Conversion
import PropOrder.Proofs.Assembly.Store

/-!
# Making objects

The conversion of concrete trees, told with objects. A rule is given a draft: the source, the
concrete node, and the parts under it together with the making of their objects. Running a making
twice gives two objects; what runs through two fields of a draft is told apart by that alone.

A rule may change an object that is made already, and it may look into one.
-/

namespace PropOrder.Assembly

/-- What makes and changes objects, and may fail. -/
abbrev Making := StateT Store (Except Fault)

/-- Make a new object that has no parent. -/
def makeObject (head : Head) (fields : Fields Ref) : Making Ref := do
  let σ ← get
  set (σ ++ [⟨head, fields, none⟩])
  return σ.length

/-- Set a field of an object. -/
def setField (r : Ref) (name : String) (slot : Slot Ref) : Making Unit :=
  modify fun σ => σ.setField r name slot

/-- Look into the store. -/
def look {α : Type} (view : Store → α) : Making α := return view (← get)

/-! ### Fields by what is asked for -/

/-- What a field of a node is to hold. -/
inductive Ask (ν : Type) where
  /-- What is at hand already. -/
  | put (slot : Slot ν)
  /-- What the part that is held under a field became. -/
  | field (name : String)
  /-- What the first constituent became. -/
  | first
  /-- What the constituents became. -/
  | all

/-- What can be asked of a concrete node. -/
structure Answers (m : Type → Type) (ν : Type) where
  /-- What the part that is held under a field became. -/
  field : String → m (Option ν)
  /-- What the first constituent became. -/
  first : m (Option ν)
  /-- What the constituents became. -/
  all : m (List ν)

/-- Ask for what the fields of a node are to hold, one after the other, and make the node. -/
def gather {m : Type → Type} {ν : Type} [Monad m] (answers : Answers m ν) :
    List (String × Ask ν) → (Fields ν → m ν) → m ν
  | [], make => make []
  | (name, .put slot) :: asks, make => gather answers asks fun fs => make ((name, slot) :: fs)
  | (name, .field field) :: asks, make => do
    let n ← answers.field field
    gather answers asks fun fs => make ((name, .ofOption n) :: fs)
  | (name, .first) :: asks, make => do
    let n ← answers.first
    gather answers asks fun fs => make ((name, .ofOption n) :: fs)
  | (name, .all) :: asks, make => do
    let ns ← answers.all
    gather answers asks fun fs => make ((name, .nodes ns) :: fs)

/-! ### Drafts -/

/-- A concrete node with the making of its object, and so for all parts under it. -/
abbrev Pending := Part (Making Ref)

/-- What a rule is given. -/
structure Draft where
  /-- The source that the tree was read off. -/
  source : SourceText
  /-- The concrete node, apart from its parts. -/
  head : ConcreteHead
  /-- The parts under it. -/
  parts : List Pending

/-- The making of the object of a concrete node. -/
abbrev Rule := Draft → Making Ref

namespace Draft

/-- The draft of a part under a draft. -/
def inside (d : Draft) (p : Pending) : Draft := ⟨d.source, p.head, p.parts⟩

/-- The name of the kind of the concrete node. -/
def kind (d : Draft) : String := d.head.kind

/-- The text of the concrete node. -/
def text (d : Draft) : Text := d.source.text d.head.span

/-- The constituents of the draft. -/
def constituents (d : Draft) : List Pending := d.parts.filter Part.isConstituent

/-- The first part that is held under a field. -/
def child? (d : Draft) (field : String) : Option Pending :=
  d.parts.find? fun p => p.head.field == field

/-- Whether a fixed token is among the parts. -/
def hasToken (d : Draft) (token : String) : Bool := d.parts.any (·.isToken token)

/-- Make an object over a given span of the source. -/
def makeAt (d : Draft) (span : Span) (kind : String) (fields : Fields Ref) : Making Ref :=
  makeObject ⟨kind, span, some (d.source.location span)⟩ fields

/-- Make an object over the span of the concrete node. -/
def make (d : Draft) (kind : String) (fields : Fields Ref) : Making Ref :=
  d.makeAt d.head.span kind fields

/-- The object of a part, if it is there. -/
def converted (p : Option Pending) : Making (Option Ref) := p.mapM Part.value

/-- The object of the part that is held under a field. -/
def field (d : Draft) (name : String) : Making (Option Ref) := converted (d.child? name)

/-- The object of the first constituent. -/
def firstConstituent (d : Draft) : Making (Option Ref) := converted d.constituents.head?

/-- The objects of the constituents. -/
def allConstituents (d : Draft) : Making (List Ref) := d.constituents.mapM Part.value

/-- What can be asked of a draft. -/
def answers (d : Draft) : Answers Making Ref := ⟨d.field, d.firstConstituent, d.allConstituents⟩

/-- Make an object whose fields hold what is asked for. -/
def holding (d : Draft) (kind : String) (asks : List (String × Ask Ref)) : Making Ref :=
  gather d.answers asks (d.make kind)

/-- The object of a part in the place of a type. A bare name of a type is a reference to it. -/
def typeOf (d : Draft) (p : Pending) : Making Ref := do
  let r ← p.value
  if p.kind == "type_identifier" || p.kind == "nested_type_identifier" then
    d.makeAt p.span "TSTypeReference" [("typeName", .node r)]
  else
    return r

/-- The object of a part in the place of a type, if it is there. -/
def typeOf? (d : Draft) (p : Option Pending) : Making (Option Ref) := p.mapM d.typeOf

/-- The object of a key, and whether it is computed. A computed key is the expression inside. -/
def keyOf (p : Option Pending) : Making (Option Ref × Bool) :=
  match p with
  | some p =>
    if p.kind == "computed_property_name" then
      return (← converted p.constituents.head?, true)
    else
      return (some (← p.value), false)
  | none => return (none, false)

end Draft

/-! ### Names and literals -/

/-- An object of the kind of the concrete node that holds the objects of its constituents. -/
def generic : Rule := fun d => d.holding d.kind [("children", .all)]

/-- A name of any sort. -/
def identifier : Rule := fun d => d.make "Identifier" [("name", .text d.text)]

/-- A quoted literal. -/
def stringLiteral : Rule := fun d => do
  let value ← (Text.literalValue d.text : Except Fault Text)
  d.make "Literal" [("value", .text value), ("raw", .text d.text)]

/-- A number literal. -/
def numberLiteral : Rule := fun d =>
  d.make "Literal"
    [("value", .one (.scalar (Conversion.numberValue d.text))), ("raw", .text d.text)]

/-- A literal that is a word. -/
def constant (value : Slot Ref) : Rule := fun d =>
  d.make "Literal" [("value", value), ("raw", .string d.kind)]

/-- A template. -/
def template : Rule := fun d =>
  d.holding "TemplateLiteral" [("raw", .put (.text d.text)), ("children", .all)]

/-! ### Statements -/

/-- The branch that an `else` leads to; an else clause stands for what it holds. -/
def elseBranch? (d : Draft) : Option Pending :=
  match d.child? "alternative" with
  | some clause =>
    if clause.kind == "else_clause" then clause.constituents.head? else some clause
  | none => none

/-- A choice between statements. -/
def ifStatement : Rule := fun d => do
  let alternate ← Draft.converted (elseBranch? d)
  d.holding "IfStatement"
    [("test", .field "condition"), ("consequent", .field "consequence"),
      ("alternate", .put (.ofOption alternate))]

/-- The word that declares the variable of a loop over something, if it has one. -/
def loopKeyword? (d : Draft) : Option String :=
  (d.parts.find? fun p => !p.head.named && ["var", "let", "const"].contains p.kind).map (·.kind)

/-- The variable of a loop over something; where a word declares it, it is a declaration. -/
def loopTarget (d : Draft) : Making (Option Ref) :=
  match d.child? "left" with
  | none => return none
  | some p => do
    let left ← p.value
    match loopKeyword? d with
    | none => return some left
    | some word =>
      let declarator ← d.makeAt p.span "VariableDeclarator" [("id", .node left), ("init", .null)]
      return some (← d.makeAt p.span "VariableDeclaration"
        [("kind", .string word), ("declarations", .nodes [declarator])])

/-- A loop over the keys or the items of something. -/
def forInStatement : Rule := fun d => do
  let left ← loopTarget d
  d.holding (if d.hasToken "of" then "ForOfStatement" else "ForInStatement")
    [("left", .put (.ofOption left)), ("right", .field "right"), ("body", .field "body")]

/-- A case of a switch. All parts held under its body but comments are its statements. -/
def switchCase : Rule := fun d => do
  let test ← d.field "value"
  let consequent ← (d.parts.filter fun p => p.head.field == "body" && p.kind != "comment").mapM
    Part.value
  d.make "SwitchCase" [("test", .ofOption test), ("consequent", .nodes consequent)]

/-- The cases of a switch among the constituents of its body. -/
def switchCases (d : Draft) : List Pending :=
  match d.child? "body" with
  | some body =>
    body.constituents.filter fun p => p.kind == "switch_case" || p.kind == "switch_default"
  | none => []

/-- A choice between cases. -/
def switchStatement : Rule := fun d => do
  let cases ← (switchCases d).mapM fun p => switchCase (d.inside p)
  d.holding "SwitchStatement" [("discriminant", .field "value"), ("cases", .put (.nodes cases))]

/-- One variable of a declaration. -/
def variableDeclarator : Rule := fun d =>
  d.holding "VariableDeclarator" [("id", .field "name"), ("init", .field "value")]

/-- The word that declares variables: the first part of a declaration. -/
def declaringWord {α : Type} : List (Part α) → String
  | [] => "var"
  | p :: _ => p.kind

/-- A declaration of variables. -/
def variableDeclaration : Rule := fun d => do
  let declarators := d.constituents.filter (·.kind == "variable_declarator")
  let declarations ← declarators.mapM fun p => variableDeclarator (d.inside p)
  d.make "VariableDeclaration"
    [("kind", .string (declaringWord d.parts)), ("declarations", .nodes declarations)]

/-- An export. A default export may be of a value; an export of no declaration keeps its
constituents. -/
def exportStatement : Rule := fun d => do
  let declaration ← d.field "declaration"
  if d.hasToken "default" then
    let declaration ← match declaration with
      | some r => pure (some r)
      | none => d.field "value"
    d.make "ExportDefaultDeclaration" [("declaration", .ofOption declaration)]
  else
    match declaration with
    | some r => d.make "ExportNamedDeclaration" [("declaration", .node r)]
    | none => d.holding "ExportNamedDeclaration" [("declaration", .put .null), ("children", .all)]

/-! ### Functions and classes -/

/-- Put an annotation on a pattern, if there is one. -/
def annotate (pattern : Ref) : Option Ref → Making Unit
  | some annotation => setField pattern "typeAnnotation" (.node annotation)
  | none => return

/-- Mark the pattern of an optional parameter. -/
def mark (d : Draft) (pattern : Ref) : Making Unit :=
  if d.kind == "optional_parameter" then setField pattern "optional" (.bool true) else return

/-- The pattern of a typed parameter, with its annotation and its mark of being optional on it;
a default makes an assignment pattern. A parameter without a pattern is left out. -/
def typedParameter (d : Draft) : Making (Option Ref) := do
  match ← d.field "pattern" with
  | none => return none
  | some pattern =>
    annotate pattern (← d.field "type")
    mark d pattern
    match ← d.field "value" with
    | some default =>
      return some (← d.make "AssignmentPattern" [("left", .node pattern), ("right", .node default)])
    | none => return some pattern

/-- The object of a parameter. -/
def parameter (d : Draft) (p : Pending) : Making (Option Ref) :=
  if p.kind == "required_parameter" || p.kind == "optional_parameter" then
    typedParameter (d.inside p)
  else return some (← p.value)

/-- The parameters of a function, given in parentheses or as a single name. -/
def parameters (d : Draft) (p : Option Pending) : Making (List Ref) :=
  match p with
  | none => return []
  | some p =>
    if p.kind == "formal_parameters" then
      return (← p.constituents.mapM (parameter d)).filterMap id
    else return [← p.value]

/-- The function that a method holds. -/
def methodFunction : Rule := fun d => do
  let params ← parameters d (d.child? "parameters")
  d.holding "FunctionExpression"
    [("id", .put .null), ("params", .put (.nodes params)), ("body", .field "body"),
      ("generator", .put (.bool (d.hasToken "*"))), ("async_", .put (.bool (d.hasToken "async")))]

/-- A function with a body in braces. -/
def function : Rule := fun d => do
  let declares := d.kind == "function_declaration" || d.kind == "generator_function_declaration"
  let generates := d.kind == "generator_function" || d.kind == "generator_function_declaration"
  let id ← d.field "name"
  let params ← parameters d (d.child? "parameters")
  d.holding (if declares then "FunctionDeclaration" else "FunctionExpression")
    [("id", .put (.ofOption id)), ("params", .put (.nodes params)), ("body", .field "body"),
      ("generator", .put (.bool generates)), ("async_", .put (.bool (d.hasToken "async")))]

/-- A function written with an arrow; without braces its body is an expression. -/
def arrowFunction : Rule := fun d => do
  let params ← parameters d ((d.child? "parameter").or (d.child? "parameters"))
  let body ← d.field "body"
  let expression ← look fun σ => body.any fun r => σ.kind r != "BlockStatement"
  d.make "ArrowFunctionExpression"
    [("id", .null), ("params", .nodes params), ("body", .ofOption body),
      ("expression", .bool expression), ("async_", .bool (d.hasToken "async"))]

/-- What kind of method a method definition is. -/
def methodKind (d : Draft) (key : Option Ref) (σ : Store) : String :=
  if d.hasToken "get" then "get"
  else if d.hasToken "set" then "set"
  else if key.any fun r => (σ.get r "name").isText "constructor" then "constructor"
  else "method"

/-- A method of a class. -/
def methodDefinition : Rule := fun d => do
  let (key, computed) ← Draft.keyOf (d.child? "name")
  let value ← methodFunction d
  let kind ← look (methodKind d key)
  d.make "MethodDefinition"
    [("key", .ofOption key), ("value", .node value), ("kind", .string kind),
      ("computed", .bool computed), ("static", .bool (d.hasToken "static"))]

/-- A field of a class. -/
def classProperty : Rule := fun d => do
  let (key, computed) ← Draft.keyOf ((d.child? "name").or (d.child? "property"))
  d.holding "ClassProperty"
    [("key", .put (.ofOption key)), ("value", .field "value"), ("typeAnnotation", .field "type"),
      ("computed", .put (.bool computed)), ("static", .put (.bool (d.hasToken "static")))]

/-- A member of a class. -/
def classMember (d : Draft) (p : Pending) : Making Ref :=
  if p.kind == "method_definition" then methodDefinition (d.inside p)
  else if p.kind == "public_field_definition" || p.kind == "field_definition" then
    classProperty (d.inside p)
  else p.value

/-- The base class of an extends clause, and the arguments for its type parameters. A base class
with type arguments may be read as one instantiation, which is taken apart. -/
def extendsBase (clause : Pending) : Making (Option Ref × Option Ref) := do
  match clause.child? "value" with
  | some value =>
    if value.kind == "instantiation_expression" then
      match value.constituents with
      | [] => throw .noSuchItem
      | first :: _ =>
        let superClass ← first.value
        let arguments := value.parts.find? fun p => p.head.named && p.kind == "type_arguments"
        return (some superClass, ← Draft.converted arguments)
    else
      let superClass ← value.value
      return (some superClass, ← Draft.converted (clause.child? "type_arguments"))
  | none => return (none, ← Draft.converted (clause.child? "type_arguments"))

/-- The base class of a class, from an extends clause or from the heritage itself. -/
def classBase (d : Draft) : Making (Option Ref × Option Ref) := do
  match d.constituents.find? (·.kind == "class_heritage") with
  | none => return (none, none)
  | some heritage =>
    match heritage.constituents.find? (·.kind == "extends_clause") with
    | some clause => extendsBase clause
    | none =>
      match heritage.parts.find? (·.head.named) with
      | some first =>
        if first.kind == "implements_clause" then return (none, none)
        else return (some (← first.value), none)
      | none => return (none, none)

/-- The body of a class; a class without one has an empty body over its own span. -/
def classBody (d : Draft) : Making Ref := do
  match d.child? "body" with
  | some body =>
    let members ← body.constituents.mapM (classMember d)
    d.makeAt body.span "ClassBody" [("body", .nodes members)]
  | none => d.make "ClassBody" [("body", .nodes [])]

/-- A class. -/
def classDefinition : Rule := fun d => do
  let base ← classBase d
  let body ← classBody d
  let id ← d.field "name"
  d.make (if d.kind == "class" then "ClassExpression" else "ClassDeclaration")
    [("id", .ofOption id), ("superClass", .ofOption base.1),
      ("superTypeParameters", .ofOption base.2), ("body", .node body)]

/-! ### Expressions -/

/-- A property of an object. -/
def property (d : Draft) (key value : Option Ref) (computed shorthand method : Bool) :
    Making Ref :=
  d.make "Property"
    [("key", .ofOption key), ("value", .ofOption value), ("computed", .bool computed),
      ("shorthand", .bool shorthand), ("method", .bool method), ("kind", .string "init")]

/-- A property with a key and a value. -/
def pairProperty : Rule := fun d => do
  let (key, computed) ← Draft.keyOf (d.child? "key")
  let value ← d.field "value"
  property d key value computed false false

/-- A property that is a method. -/
def methodProperty : Rule := fun d => do
  let (key, computed) ← Draft.keyOf (d.child? "name")
  let value ← methodFunction d
  property d key (some value) computed false true

/-- A constituent of an object. A name alone is made into two objects, the key and the value. -/
def objectMember (d : Draft) (p : Pending) : Making Ref :=
  if p.kind == "pair" then pairProperty (d.inside p)
  else if p.kind == "shorthand_property_identifier" then do
    let key ← p.value
    let value ← p.value
    property (d.inside p) (some key) (some value) false true false
  else if p.kind == "method_definition" then methodProperty (d.inside p)
  else p.value

/-- An object. -/
def object : Rule := fun d => do
  let properties ← d.constituents.mapM (objectMember d)
  d.make "ObjectExpression" [("properties", .nodes properties)]

/-- Access to a member, which is held under a given field. -/
def access (field : String) (computed : Bool) : Rule := fun d =>
  d.holding "MemberExpression"
    [("object", .field "object"), ("property", .field field), ("computed", .put (.bool computed)),
      ("optional", .put (.bool (d.hasToken "?.")))]

/-- The arguments of a call. -/
def arguments (p : Option Pending) : Making (List Ref) :=
  match p with
  | some p => p.constituents.mapM Part.value
  | none => return []

/-- A call; a template in the place of the arguments is tagged. -/
def call : Rule := fun d => do
  let callee ← d.field "function"
  match d.child? "arguments" with
  | some p =>
    if p.kind == "template_string" then
      let quasi ← p.value
      d.make "TaggedTemplateExpression" [("tag", .ofOption callee), ("quasi", .node quasi)]
    else ordinary d callee
  | none => ordinary d callee
where
  ordinary (d : Draft) (callee : Option Ref) : Making Ref := do
    let arguments ← arguments (d.child? "arguments")
    d.holding "CallExpression"
      [("callee", .put (.ofOption callee)), ("arguments", .put (.nodes arguments)),
        ("typeParameters", .field "type_arguments")]

/-- A call of a constructor. -/
def newExpression : Rule := fun d => do
  let callee ← d.field "constructor"
  let arguments ← arguments (d.child? "arguments")
  d.make "NewExpression" [("callee", .ofOption callee), ("arguments", .nodes arguments)]

/-- The operator of an operation, or what stands for a missing one. -/
def operatorOr (d : Draft) (missing : String) : String :=
  match d.child? "operator" with
  | some p => p.kind
  | none => missing

/-- An assignment. -/
def assignment : Rule := fun d =>
  d.holding "AssignmentExpression"
    [("operator", .put (.string (operatorOr d "="))), ("left", .field "left"),
      ("right", .field "right")]

/-- An operation on two operands. -/
def binary : Rule := fun d =>
  let operator := operatorOr d ""
  d.holding
    (if Conversion.logicalOperators.contains operator then "LogicalExpression"
      else "BinaryExpression")
    [("operator", .put (.string operator)), ("left", .field "left"), ("right", .field "right")]

/-- An operation on one operand. -/
def unary : Rule := fun d =>
  d.holding "UnaryExpression"
    [("operator", .put (.string (operatorOr d ""))), ("argument", .field "argument")]

/-- Expressions in parentheses: a single one stands for itself. -/
def parenthesized : Rule := fun d =>
  match d.constituents with
  | [p] => p.value
  | _ => d.holding "SequenceExpression" [("expressions", .all)]

/-- A value handed out by a generator. -/
def yieldExpression : Rule := fun d =>
  d.holding "YieldExpression" [("argument", .first), ("delegate", .put (.bool (d.hasToken "*")))]

/-- Embedded markup; tags without a name make a fragment. -/
def markup : Rule := fun d =>
  let nameless := (d.child? "open_tag").any fun tag => (tag.child? "name").isNone
  let fragment := d.kind == "jsx_fragment" || (d.kind == "jsx_element" && nameless)
  d.holding (if fragment then "JSXFragment" else "JSXElement") [("children", .all)]

/-! ### Types -/

/-- An expression with a type claimed for it, as an object of a given kind. -/
def typeClaim (kind : String) : Rule := fun d => do
  let expression ← d.firstConstituent
  let annotation ← d.typeOf? d.constituents[1]?
  d.make kind [("expression", .ofOption expression), ("typeAnnotation", .ofOption annotation)]

/-- An interface; one without a body has an empty body over its own span. -/
def interface : Rule := fun d => do
  let body ← match d.child? "body" with
    | some body => do
      let members ← body.constituents.mapM Part.value
      d.makeAt body.span "TSInterfaceBody" [("body", .nodes members)]
    | none => d.make "TSInterfaceBody" [("body", .nodes [])]
  d.holding "TSInterfaceDeclaration" [("id", .field "name"), ("body", .put (.node body))]

/-- A name for a type. -/
def typeAlias : Rule := fun d => do
  let id ← d.field "name"
  let annotation ← d.typeOf? (d.child? "value")
  d.make "TSTypeAliasDeclaration" [("id", .ofOption id), ("typeAnnotation", .ofOption annotation)]

/-- A member of a type: the kind of object, and the field that holds the type of the member. -/
def signature (kind typeField : String) : Rule := fun d => do
  let (key, computed) ← Draft.keyOf (d.child? "name")
  d.holding kind
    [("key", .put (.ofOption key)), ("computed", .put (.bool computed)),
      ("optional", .put (.bool (d.hasToken "?"))), ("typeAnnotation", .field typeField)]

/-- The annotation of something with a type. -/
def typeAnnotation : Rule := fun d => do
  let annotation ← d.typeOf? d.constituents.head?
  d.make "TSTypeAnnotation" [("typeAnnotation", .ofOption annotation)]

/-- The arguments for type parameters. -/
def typeArguments : Rule := fun d => do
  let params ← d.constituents.mapM d.typeOf
  d.make "TSTypeParameterInstantiation" [("params", .nodes params)]

/-! ### All rules -/

/-- The rules of names. -/
def nameRules : List (String × Rule) := [
  ("identifier", identifier),
  ("property_identifier", identifier),
  ("private_property_identifier", identifier),
  ("shorthand_property_identifier", identifier),
  ("shorthand_property_identifier_pattern", identifier),
  ("statement_identifier", identifier),
  ("type_identifier", identifier)]

/-- The rules of statements. -/
def statementRules : List (String × Rule) := [
  ("program", fun d => d.holding "Program"
    [("body", .all), ("sourceType", .put (.string "module"))]),
  ("expression_statement", fun d => d.holding "ExpressionStatement" [("expression", .first)]),
  ("statement_block", fun d => d.holding "BlockStatement" [("body", .all)]),
  ("return_statement", fun d => d.holding "ReturnStatement" [("argument", .first)]),
  ("if_statement", ifStatement),
  ("while_statement", fun d => d.holding "WhileStatement"
    [("test", .field "condition"), ("body", .field "body")]),
  ("do_statement", fun d => d.holding "DoWhileStatement"
    [("body", .field "body"), ("test", .field "condition")]),
  ("for_statement", fun d => d.holding "ForStatement"
    [("init", .field "initializer"), ("test", .field "condition"), ("update", .field "increment"),
      ("body", .field "body")]),
  ("for_in_statement", forInStatement),
  ("switch_statement", switchStatement),
  ("catch_clause", fun d => d.holding "CatchClause"
    [("param", .field "parameter"), ("body", .field "body")]),
  ("variable_declaration", variableDeclaration),
  ("lexical_declaration", variableDeclaration),
  ("export_statement", exportStatement)]

/-- The rules of functions and classes. -/
def functionRules : List (String × Rule) := [
  ("class_declaration", classDefinition),
  ("abstract_class_declaration", classDefinition),
  ("class", classDefinition),
  ("function_declaration", function),
  ("generator_function_declaration", function),
  ("function_expression", function),
  ("function", function),
  ("generator_function", function),
  ("arrow_function", arrowFunction)]

/-- The rules of expressions. -/
def expressionRules : List (String × Rule) := [
  ("string", stringLiteral),
  ("number", numberLiteral),
  ("true", constant (.bool true)),
  ("false", constant (.bool false)),
  ("null", constant .null),
  ("this", fun d => d.holding "ThisExpression" []),
  ("template_string", template),
  ("object", object),
  ("object_pattern", fun d => d.holding "ObjectPattern" [("properties", .all)]),
  ("assignment_pattern", fun d => d.holding "AssignmentPattern"
    [("left", .field "left"), ("right", .field "right")]),
  ("rest_pattern", fun d => d.holding "RestElement" [("argument", .first)]),
  ("spread_element", fun d => d.holding "SpreadElement" [("argument", .first)]),
  ("array", fun d => d.holding "ArrayExpression" [("elements", .all)]),
  ("member_expression", access "property" false),
  ("subscript_expression", access "index" true),
  ("call_expression", call),
  ("new_expression", newExpression),
  ("assignment_expression", assignment),
  ("augmented_assignment_expression", assignment),
  ("ternary_expression", fun d => d.holding "ConditionalExpression"
    [("test", .field "condition"), ("consequent", .field "consequence"),
      ("alternate", .field "alternative")]),
  ("binary_expression", binary),
  ("unary_expression", unary),
  ("parenthesized_expression", parenthesized),
  ("yield_expression", yieldExpression),
  ("await_expression", fun d => d.holding "AwaitExpression" [("argument", .first)]),
  ("jsx_element", markup),
  ("jsx_self_closing_element", markup),
  ("jsx_fragment", markup)]

/-- The rules of types and typed expressions. -/
def typeRules : List (String × Rule) := [
  ("as_expression", typeClaim "TSAsExpression"),
  ("satisfies_expression", typeClaim "TSSatisfiesExpression"),
  ("non_null_expression", fun d => d.holding "TSNonNullExpression" [("expression", .first)]),
  ("interface_declaration", interface),
  ("type_alias_declaration", typeAlias),
  ("object_type", fun d => d.holding "TSTypeLiteral" [("members", .all)]),
  ("property_signature", signature "TSPropertySignature" "type"),
  ("method_signature", signature "TSMethodSignature" "return_type"),
  ("type_annotation", typeAnnotation),
  ("generic_type", fun d => d.holding "TSTypeReference"
    [("typeName", .field "name"), ("typeParameters", .field "type_arguments")]),
  ("nested_type_identifier", fun d => d.holding "TSQualifiedName"
    [("left", .field "module"), ("right", .field "name")]),
  ("type_arguments", typeArguments)]

/-- All rules, by the kind of the concrete node. -/
def rules : List (String × Rule) :=
  nameRules ++ statementRules ++ functionRules ++ expressionRules ++ typeRules

/-- The rule for a kind of concrete node. -/
def ruleFor (kind : String) : Rule := (rules.lookup kind).getD generic

/-- The makings of the objects of a concrete tree, from the bottom up. -/
def assembleAll (source : SourceText) (tree : Concrete) : Pending :=
  tree.annotate fun head parts => ruleFor head.kind ⟨source, head, parts⟩

theorem assembleAll_mk (source : SourceText) (head : ConcreteHead) (children : List Concrete) :
    assembleAll source (.mk head children) =
      .mk head (ruleFor head.kind ⟨source, head, children.map (assembleAll source)⟩)
        (children.map (assembleAll source)) := by
  rw [assembleAll, Concrete.annotate, Concrete.annotateAll_eq_map]
  rfl

/-- The making of the objects of a concrete tree. -/
def assemble (source : SourceText) (tree : Concrete) : Making Ref := (assembleAll source tree).value

/-- Make the objects of a concrete tree and link them. Making may fail, and linking may not end. -/
def build (source : SourceText) : Concrete →. Except Fault (Ref × Store) := fun tree =>
  match (assemble source tree).run [] with
  | .error fault => .some (.error fault)
  | .ok (root, σ) => (σ.link root).map fun linked => .ok (root, linked)

end PropOrder.Assembly
