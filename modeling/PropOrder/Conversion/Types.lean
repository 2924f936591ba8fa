import PropOrder.Conversion.Form

/-!
# Types

What the concrete nodes of type declarations, types and typed expressions become.
-/

namespace PropOrder.Conversion

/-- An expression with a type claimed for it, as a node of a given kind. -/
def typeClaim (kind : String) : Rule := fun f => do
  let expression ← f.firstConstituent
  let annotation ← f.typeOf? f.constituents[1]?
  return f.node kind
    [("expression", .ofOption expression), ("typeAnnotation", .ofOption annotation)]

/-- An expression claimed to hold something. -/
def nonNull : Rule := fun f => do
  return f.node "TSNonNullExpression" [("expression", .ofOption (← f.firstConstituent))]

/-- An interface; one without a body has an empty body over its own span. -/
def interface : Rule := fun f => do
  let body ← match f.child? "body" with
    | some body => do
      let members ← body.constituents.mapM Part.value
      pure (f.nodeAt body.span "TSInterfaceBody" [("body", .nodes members)])
    | none => pure (f.node "TSInterfaceBody" [("body", .nodes [])])
  let id ← f.field "name"
  return f.node "TSInterfaceDeclaration" [("id", .ofOption id), ("body", .node body)]

/-- A name for a type. -/
def typeAlias : Rule := fun f => do
  let id ← f.field "name"
  let annotation ← f.typeOf? (f.child? "value")
  return f.node "TSTypeAliasDeclaration"
    [("id", .ofOption id), ("typeAnnotation", .ofOption annotation)]

/-- A type given by its members. -/
def typeLiteral : Rule := fun f => do
  return f.node "TSTypeLiteral" [("members", .nodes (← f.allConstituents))]

/-- A member of a type: the kind of node, and the field that holds the type of the member. -/
def signature (kind typeField : String) : Rule := fun f => do
  let (key, computed) ← Form.keyOf (f.child? "name")
  let annotation ← f.field typeField
  return f.node kind
    [("key", .ofOption key), ("computed", .bool computed), ("optional", .bool (f.hasToken "?")),
      ("typeAnnotation", .ofOption annotation)]

/-- The annotation of something with a type. -/
def typeAnnotation : Rule := fun f => do
  let annotation ← f.typeOf? f.constituents.head?
  return f.node "TSTypeAnnotation" [("typeAnnotation", .ofOption annotation)]

/-- A type with arguments. -/
def genericType : Rule := fun f => do
  let name ← f.field "name"
  let arguments ← f.field "type_arguments"
  return f.node "TSTypeReference"
    [("typeName", .ofOption name), ("typeParameters", .ofOption arguments)]

/-- A name inside a module. -/
def qualifiedName : Rule := fun f => do
  let left ← f.field "module"
  let right ← f.field "name"
  return f.node "TSQualifiedName" [("left", .ofOption left), ("right", .ofOption right)]

/-- The arguments for type parameters. -/
def typeArguments : Rule := fun f => do
  return f.node "TSTypeParameterInstantiation"
    [("params", .nodes (← f.constituents.mapM f.typeOf))]

end PropOrder.Conversion
