import PropOrder.SourceText

/-!
# Concrete trees

The tree that a parser reads off a source: every token is a leaf, and a node may be held by its
parent under the name of a field. `Concrete.annotate` gives every node a value from the bottom up;
the rule for a node sees the parts under it with their values, at any depth.

A parser reports the rows and columns of a node beside its bytes. They are not kept here but counted
in the source (`Concrete.location`): the parser is assumed to report, for each end of a node, the
number of line feeds in front of it and of bytes behind the last of them.
-/

namespace PropOrder

/-- What a concrete node is, apart from its children. -/
structure ConcreteHead where
  /-- Whether the node is more than a fixed token. -/
  named : Bool
  /-- The name of the kind; a fixed token is its own kind. -/
  kind : String
  /-- The name of the field under which the parent holds the node; empty for none. -/
  field : String
  /-- The bytes of the source that the node covers. -/
  span : Span
  deriving DecidableEq

/-- A concrete node with its children in order. -/
inductive Concrete where
  /-- A node with its children in order. -/
  | mk (head : ConcreteHead) (children : List Concrete)

instance : Inhabited Concrete := ⟨.mk ⟨false, "", "", default⟩ []⟩

namespace Concrete

/-- What a node is, apart from its children. -/
def head : Concrete → ConcreteHead
  | mk head _ => head

/-- The children of a node in order. -/
def children : Concrete → List Concrete
  | mk _ children => children

/-- The name of the kind of a node. -/
def kind (t : Concrete) : String := t.head.kind

/-- The bytes of the source that a node covers. -/
def span (t : Concrete) : Span := t.head.span

/-- The rows and columns of a node, as the parser is assumed to report them. -/
def location (t : Concrete) (source : SourceText) : Location := source.location t.span

end Concrete

/-- A concrete node with a value, and with parts under it that have values too. -/
inductive Part (α : Type) where
  /-- A node with its value and its parts in order. -/
  | mk (head : ConcreteHead) (value : α) (parts : List (Part α))

namespace Part
variable {α : Type}

/-- What the node is, apart from its parts. -/
def head : Part α → ConcreteHead
  | mk head _ _ => head

/-- The value of the node. -/
def value : Part α → α
  | mk _ value _ => value

/-- The parts under the node in order. -/
def parts : Part α → List (Part α)
  | mk _ _ parts => parts

/-- The name of the kind of the node. -/
def kind (p : Part α) : String := p.head.kind

/-- The bytes of the source that the node covers. -/
def span (p : Part α) : Span := p.head.span

/-- Whether the node counts as a constituent: it is more than a fixed token, and no comment. -/
def isConstituent (p : Part α) : Bool := p.head.named && p.kind != "comment"

/-- Whether the node is a given fixed token. -/
def isToken (p : Part α) (token : String) : Bool := !p.head.named && p.kind == token

/-- The constituents under the node. -/
def constituents (p : Part α) : List (Part α) := p.parts.filter isConstituent

/-- The first part under the node that is held under a field. -/
def child? (p : Part α) (field : String) : Option (Part α) :=
  p.parts.find? fun c => c.head.field == field

end Part

namespace Concrete
variable {α : Type}

mutual

/-- Give every node a value from the bottom up. -/
def annotate (rule : ConcreteHead → List (Part α) → α) : Concrete → Part α
  | mk head children =>
    let parts := annotateAll rule children
    .mk head (rule head parts) parts

/-- Give every node of a list of trees a value from the bottom up. -/
def annotateAll (rule : ConcreteHead → List (Part α) → α) : List Concrete → List (Part α)
  | [] => []
  | t :: ts => annotate rule t :: annotateAll rule ts

end

theorem annotateAll_eq_map (rule : ConcreteHead → List (Part α) → α) (ts : List Concrete) :
    annotateAll rule ts = ts.map (annotate rule) := by
  induction ts with
  | nil => rfl
  | cons t ts ih => simp [annotateAll, ih]

@[simp] theorem head_annotate (rule : ConcreteHead → List (Part α) → α) (t : Concrete) :
    (annotate rule t).head = t.head := by
  cases t; rfl

@[simp] theorem parts_annotate (rule : ConcreteHead → List (Part α) → α) (t : Concrete) :
    (annotate rule t).parts = t.children.map (annotate rule) := by
  cases t; simp [annotate, Part.parts, children, annotateAll_eq_map]

/-- The value of a node is what the rule gives for its annotated children. -/
theorem value_annotate (rule : ConcreteHead → List (Part α) → α) (t : Concrete) :
    (annotate rule t).value = rule t.head (t.children.map (annotate rule)) := by
  cases t; simp [annotate, Part.value, head, children, annotateAll_eq_map]

end Concrete

end PropOrder
