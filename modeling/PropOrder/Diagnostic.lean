import PropOrder.Site

/-!
# Diagnostics

A diagnostic blames a node for a violation of the order. Its line counts from one and its column
from zero; a node without a location is at line zero and column zero.
-/

namespace PropOrder

/-- The ways in which an order is violated. -/
inductive Violation where
  /-- A required declaration stands after one that is not. -/
  | requiredFirst
  /-- A callback stands before a declaration that is none. -/
  | callbacksLast
  /-- A declaration stands after one with a greater name. -/
  | alphabetical
  deriving DecidableEq, Repr

namespace Violation

/-- The name of a violation. -/
def name : Violation → String
  | requiredFirst => "required-first"
  | callbacksLast => "callbacks-last"
  | alphabetical => "alphabetical"

/-- The violation of a given name. -/
def ofName? (name : Text) : Option Violation :=
  [requiredFirst, callbacksLast, alphabetical].find? (Text.ofString ·.name == name)

/-- What a violation is reported as. -/
def message : Violation → String
  | requiredFirst => "Required prop types must be listed before all other prop types"
  | callbacksLast => "Callback prop types must be listed after all other prop types"
  | alphabetical => "Prop types declarations should be sorted alphabetically"

/-- What is said of something, as it is shown, that is the name of no violation. -/
def unknownMessage (shown : Text) : Text :=
  shown ++ Text.ofString " is not a valid OrderViolation"

end Violation

/-- A violation of the order that a node is blamed for. -/
structure Diagnostic where
  /-- The node. -/
  site : Site
  /-- What is said about it. -/
  message : Text
  /-- Which violation it is. -/
  violation : Violation

namespace Diagnostic

/-- The name of the rule that all diagnostics come from. -/
def ruleName : String := "sort-prop-types"

/-- The diagnostic of a violation with its own message. -/
def of (site : Site) (violation : Violation) : Diagnostic :=
  ⟨site, .ofString violation.message, violation⟩

/-- The line of the node, counted from one. -/
def line (d : Diagnostic) : Int :=
  match d.site.location with
  | some l => l.start.row + 1
  | none => 0

/-- The column of the node, counted from zero. -/
def column (d : Diagnostic) : Int :=
  match d.site.location with
  | some l => l.start.column
  | none => 0

end Diagnostic

end PropOrder
