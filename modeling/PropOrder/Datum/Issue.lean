import PropOrder.Text.Basic

/-!
# Issues with a configuration

An issue says what is wrong at which place of a configuration. All issues are reported, in the order
of the declared keys and then of the other keys as they are given.
-/

namespace PropOrder

/-- What is wrong with a value. -/
inductive IssueKind where
  /-- The key is not known. -/
  | extraForbidden
  /-- The key is not a text. -/
  | invalidKey
  /-- The key is not there. -/
  | missing
  /-- The value does not stand for a truth value, though its type could. -/
  | boolParsing
  /-- The value is of no type that could stand for a truth value. -/
  | boolType
  /-- The value is not a list. -/
  | listType
  /-- The value is not a text. -/
  | stringType
  /-- The text holds a surrogate, and so cannot be written. -/
  | stringUnicode
  /-- The number has a fraction. -/
  | intFromFloat
  /-- The text does not stand for an integer. -/
  | intParsing
  /-- The value stands for an integer that is too large. -/
  | intParsingSize
  /-- The value is of no type that could stand for an integer. -/
  | intType
  /-- The value is neither infinite nor a number. -/
  | finiteNumber
  /-- The value does not have keys; the name is that of what is looked for. -/
  | modelType (model : String)
  deriving DecidableEq, Repr

namespace IssueKind

/-- The name of a kind of issue. -/
def name : IssueKind → String
  | extraForbidden => "extra_forbidden"
  | invalidKey => "invalid_key"
  | missing => "missing"
  | boolParsing => "bool_parsing"
  | boolType => "bool_type"
  | listType => "list_type"
  | stringType => "string_type"
  | stringUnicode => "string_unicode"
  | intFromFloat => "int_from_float"
  | intParsing => "int_parsing"
  | intParsingSize => "int_parsing_size"
  | intType => "int_type"
  | finiteNumber => "finite_number"
  | modelType _ => "model_type"

/-- What a kind of issue is reported as. -/
def message : IssueKind → String
  | extraForbidden => "Extra inputs are not permitted"
  | invalidKey => "Keys should be strings"
  | missing => "Field required"
  | boolParsing => "Input should be a valid boolean, unable to interpret input"
  | boolType => "Input should be a valid boolean"
  | listType => "Input should be a valid list"
  | stringType => "Input should be a valid string"
  | stringUnicode =>
    "Input should be a valid string, unable to parse raw data as a unicode string"
  | intFromFloat => "Input should be a valid integer, got a number with a fractional part"
  | intParsing => "Input should be a valid integer, unable to parse string as an integer"
  | intParsingSize => "Unable to parse input string as an integer, exceeded maximum size"
  | intType => "Input should be a valid integer"
  | finiteNumber => "Input should be a finite number"
  | modelType model => "Input should be a valid dictionary or instance of " ++ model

end IssueKind

/-- A step to a place of a configuration. -/
inductive PathStep where
  /-- The value under a key, or one reading of a value. -/
  | key (name : Text)
  /-- An item of a list, or the value under a key that is a number. -/
  | index (number : Int)
  deriving DecidableEq, Repr

/-- The step to the value under a key that is written out. -/
def PathStep.named (name : String) : PathStep := .key (Text.ofString name)

/-- What is wrong at a place of a configuration. -/
structure Issue where
  /-- What is wrong. -/
  kind : IssueKind
  /-- The steps to the place, from the outside in. -/
  path : List PathStep
  deriving DecidableEq, Repr

/-- An issue with a step in front of its path. -/
def Issue.under (step : PathStep) (issue : Issue) : Issue := ⟨issue.kind, step :: issue.path⟩

end PropOrder
