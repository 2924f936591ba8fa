import PropOrder.Concrete
import PropOrder.Fault
import PropOrder.Node

/-!
# Conversion rules

A rule says what program node a concrete node becomes. It is given a form: the source, the concrete
node, and the parts under it together with what each of them has become. A part that could not be
converted makes a rule fail only if the rule asks for it, and of several such parts the first
that is asked for decides the fault.

Comments and fixed tokens are not among the constituents of a form.
-/

namespace PropOrder.Conversion

/-- A concrete node with what it became, and so for all parts under it. -/
abbrev Converted := Part (Except Fault Node)

/-- What a rule is given. -/
structure Form where
  /-- The source that the tree was read off. -/
  source : SourceText
  /-- The concrete node, apart from its parts. -/
  head : ConcreteHead
  /-- The parts under it. -/
  parts : List Converted

/-- What a concrete node becomes. -/
abbrev Rule := Form → Except Fault Node

namespace Form

/-- The form of a part under a form. -/
def inside (f : Form) (p : Converted) : Form := ⟨f.source, p.head, p.parts⟩

/-- The name of the kind of the concrete node. -/
def kind (f : Form) : String := f.head.kind

/-- The bytes of the source that the concrete node covers. -/
def span (f : Form) : Span := f.head.span

/-- The text of the concrete node. -/
def text (f : Form) : Text := f.source.text f.span

/-- The constituents of the form. -/
def constituents (f : Form) : List Converted := f.parts.filter Part.isConstituent

/-- The first part that is held under a field. -/
def child? (f : Form) (field : String) : Option Converted :=
  f.parts.find? fun p => p.head.field == field

/-- Whether a fixed token is among the parts. -/
def hasToken (f : Form) (token : String) : Bool := f.parts.any (·.isToken token)

/-- A program node over a given span of the source: that of the concrete node or of a part under
it, with its rows and columns as in `Concrete.location`. -/
def nodeAt (f : Form) (span : Span) (kind : String) (fields : List (String × Slot Node)) : Node :=
  .mk ⟨kind, span, some (f.source.location span)⟩ fields

/-- A program node over the span of the concrete node. -/
def node (f : Form) (kind : String) (fields : List (String × Slot Node)) : Node :=
  f.nodeAt f.span kind fields

/-- What a part became, if it is there. -/
def converted (p : Option Converted) : Except Fault (Option Node) := p.mapM Part.value

/-- What the part that is held under a field became. -/
def field (f : Form) (name : String) : Except Fault (Option Node) := converted (f.child? name)

/-- What the first constituent became. -/
def firstConstituent (f : Form) : Except Fault (Option Node) := converted f.constituents.head?

/-- What the constituents became. -/
def allConstituents (f : Form) : Except Fault (List Node) := f.constituents.mapM Part.value

/-- What a part in the place of a type became. A bare name of a type is a reference to it. -/
def typeOf (f : Form) (p : Converted) : Except Fault Node := do
  let n ← p.value
  if p.kind == "type_identifier" || p.kind == "nested_type_identifier" then
    return f.nodeAt p.span "TSTypeReference" [("typeName", .node n)]
  else
    return n

/-- What a part in the place of a type became, if it is there. -/
def typeOf? (f : Form) (p : Option Converted) : Except Fault (Option Node) := p.mapM f.typeOf

/-- What a key became, and whether it is computed. A computed key is the expression inside. -/
def keyOf (p : Option Converted) : Except Fault (Option Node × Bool) :=
  match p with
  | some p =>
    if p.kind == "computed_property_name" then
      return (← converted p.constituents.head?, true)
    else
      return (some (← p.value), false)
  | none => return (none, false)

end Form

end PropOrder.Conversion
