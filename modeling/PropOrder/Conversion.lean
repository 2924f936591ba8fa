import PropOrder.Conversion.Expressions
import PropOrder.Conversion.Statements
import PropOrder.Conversion.Types

/-!
# Conversion of concrete trees

The program that a concrete tree stands for. Every kind of concrete node has a rule, and a kind
without a rule of its own becomes a node of the same kind that holds what its constituents became.
Comments leave no trace, and neither do parentheses around a single expression.
-/

namespace PropOrder.Conversion

/-- A node of the kind of the concrete node, with what its constituents became. -/
def generic : Rule := fun f => do
  return f.node f.kind [("children", .nodes (← f.allConstituents))]

/-- The rules of names. -/
def nameRules : List (String × Rule) := [
  ("identifier", identifier),
  ("property_identifier", identifier),
  ("private_property_identifier", identifier),
  ("shorthand_property_identifier", identifier),
  ("shorthand_property_identifier_pattern", identifier),
  ("statement_identifier", identifier),
  ("type_identifier", identifier)]

/-- The rules of statements. -/
def statementRules : List (String × Rule) := [
  ("program", program),
  ("expression_statement", expressionStatement),
  ("statement_block", block),
  ("return_statement", returnStatement),
  ("if_statement", ifStatement),
  ("while_statement", whileStatement),
  ("do_statement", doWhileStatement),
  ("for_statement", forStatement),
  ("for_in_statement", forInStatement),
  ("switch_statement", switchStatement),
  ("catch_clause", catchClause),
  ("variable_declaration", variableDeclaration),
  ("lexical_declaration", variableDeclaration),
  ("export_statement", exportStatement)]

/-- The rules of functions and classes. -/
def functionRules : List (String × Rule) := [
  ("class_declaration", classDefinition),
  ("abstract_class_declaration", classDefinition),
  ("class", classDefinition),
  ("function_declaration", function),
  ("generator_function_declaration", function),
  ("function_expression", function),
  ("function", function),
  ("generator_function", function),
  ("arrow_function", arrowFunction)]

/-- The rules of expressions. -/
def expressionRules : List (String × Rule) := [
  ("string", stringLiteral),
  ("number", numberLiteral),
  ("true", constant (.bool true)),
  ("false", constant (.bool false)),
  ("null", constant .null),
  ("this", thisExpression),
  ("template_string", template),
  ("object", object),
  ("object_pattern", objectPattern),
  ("assignment_pattern", assignmentPattern),
  ("rest_pattern", restElement),
  ("spread_element", spreadElement),
  ("array", array),
  ("member_expression", member),
  ("subscript_expression", subscript),
  ("call_expression", call),
  ("new_expression", newExpression),
  ("assignment_expression", assignment),
  ("augmented_assignment_expression", assignment),
  ("ternary_expression", conditional),
  ("binary_expression", binary),
  ("unary_expression", unary),
  ("parenthesized_expression", parenthesized),
  ("yield_expression", yieldExpression),
  ("await_expression", awaitExpression),
  ("jsx_element", markup),
  ("jsx_self_closing_element", markup),
  ("jsx_fragment", markup)]

/-- The rules of types and typed expressions. -/
def typeRules : List (String × Rule) := [
  ("as_expression", typeClaim "TSAsExpression"),
  ("satisfies_expression", typeClaim "TSSatisfiesExpression"),
  ("non_null_expression", nonNull),
  ("interface_declaration", interface),
  ("type_alias_declaration", typeAlias),
  ("object_type", typeLiteral),
  ("property_signature", signature "TSPropertySignature" "type"),
  ("method_signature", signature "TSMethodSignature" "return_type"),
  ("type_annotation", typeAnnotation),
  ("generic_type", genericType),
  ("nested_type_identifier", qualifiedName),
  ("type_arguments", typeArguments)]

/-- All rules, by the kind of the concrete node. -/
def rules : List (String × Rule) :=
  nameRules ++ statementRules ++ functionRules ++ expressionRules ++ typeRules

/-- The rule for a kind of concrete node. -/
def ruleFor (kind : String) : Rule := (rules.lookup kind).getD generic

/-- What the concrete nodes of a tree become, from the bottom up. -/
def convertAll (source : SourceText) (tree : Concrete) : Converted :=
  tree.annotate fun head parts => ruleFor head.kind ⟨source, head, parts⟩

theorem convertAll_mk (source : SourceText) (head : ConcreteHead) (children : List Concrete) :
    convertAll source (.mk head children) =
      .mk head (ruleFor head.kind ⟨source, head, children.map (convertAll source)⟩)
        (children.map (convertAll source)) := by
  rw [convertAll, Concrete.annotate, Concrete.annotateAll_eq_map]
  rfl

/-- What a concrete tree becomes. -/
def convert (source : SourceText) (tree : Concrete) : Except Fault Node :=
  (convertAll source tree).value

/-- The rule of its kind says what a tree becomes. -/
theorem convert_eq (source : SourceText) (tree : Concrete) :
    convert source tree =
      ruleFor tree.kind ⟨source, tree.head, tree.children.map (convertAll source)⟩ := by
  rw [convert, convertAll, Concrete.value_annotate]
  rfl

end PropOrder.Conversion
