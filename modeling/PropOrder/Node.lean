import PropOrder.Scalar
import PropOrder.SourceText

/-!
# Program nodes

A program is a tree of nodes. A node has the name of its kind, its place in the source and a
sequence of named fields. A field holds one entry or a list of entries, and an entry is a node, a
scalar or nothing. A field that a node does not have reads as nothing.

Entries and slots are taken over any type of nodes, so that a field can be seen at once as
holding nodes and as holding nodes with their surroundings.
-/

namespace PropOrder

/-- What a field or an item of a list holds. -/
inductive Entry (α : Type) where
  /-- Nothing. -/
  | null
  /-- A value that is not a node. -/
  | scalar (value : Scalar)
  /-- A node. -/
  | node (node : α)

/-- What a field holds. -/
inductive Slot (α : Type) where
  /-- One entry. -/
  | one (entry : Entry α)
  /-- A list of entries. -/
  | many (entries : List (Entry α))

/-- What a node is, apart from its fields. -/
structure Head where
  /-- The name of the kind. -/
  kind : String
  /-- The bytes of the source that the node covers. -/
  span : Span
  /-- The rows and columns of the span, if they are known. -/
  location : Option Location
  deriving DecidableEq

/-- A node of a program. -/
inductive Node where
  /-- A node with its fields in order. -/
  | mk (head : Head) (fields : List (String × Slot Node))

instance : Inhabited Node := ⟨.mk ⟨"", default, none⟩ []⟩

namespace Entry

/-- Change the node of an entry. -/
def map {α β : Type} (f : α → β) : Entry α → Entry β
  | null => null
  | scalar value => scalar value
  | node n => node (f n)

/-- The node of an entry, if it is one. -/
def node? {α : Type} : Entry α → Option α
  | node n => some n
  | _ => none

end Entry

namespace Slot
variable {α β : Type}

/-- The slot that holds nothing. -/
abbrev null : Slot α := .one .null

/-- The slot that holds a text. -/
abbrev text (t : Text) : Slot α := .one (.scalar (.text t))

/-- The slot that holds the code points of a string. -/
abbrev string (s : String) : Slot α := text (.ofString s)

/-- The slot that holds a truth value. -/
abbrev bool (b : Bool) : Slot α := .one (.scalar (.bool b))

/-- The slot that holds a node. -/
abbrev node (n : α) : Slot α := .one (.node n)

/-- The slot that holds a list of nodes. -/
abbrev nodes (ns : List α) : Slot α := .many (ns.map .node)

/-- The slot that holds a node or nothing. -/
def ofOption : Option α → Slot α
  | some n => node n
  | none => null

/-- The entries of a slot in order. -/
def entries : Slot α → List (Entry α)
  | one e => [e]
  | many es => es

/-- The nodes that a slot holds, in order. -/
def nodeList (s : Slot α) : List α := s.entries.filterMap Entry.node?

/-- Whether a slot holds nothing. -/
def isNull : Slot α → Bool
  | one .null => true
  | _ => false

/-- Whether a slot holds a given text. -/
def isText : Slot α → String → Bool
  | one (.scalar (.text t)), s => t == Text.ofString s
  | _, _ => false

/-- The text that a slot holds, if it is one. -/
def text? : Slot α → Option Text
  | one (.scalar (.text t)) => some t
  | _ => none

end Slot

namespace Node

/-- What a node is, apart from its fields. -/
def head : Node → Head
  | mk head _ => head

/-- The fields of a node in order. -/
def fields : Node → List (String × Slot Node)
  | mk _ fields => fields

/-- The name of the kind of a node. -/
def kind (n : Node) : String := n.head.kind

/-- The bytes of the source that a node covers. -/
def span (n : Node) : Span := n.head.span

/-- The rows and columns of a node, if they are known. -/
def location (n : Node) : Option Location := n.head.location

/-- What a field of a node holds; a field that the node does not have holds nothing. -/
def get (n : Node) (name : String) : Slot Node := (n.fields.lookup name).getD .null

/-- The child nodes of a node, in the order of its fields. -/
def children (n : Node) : List Node := n.fields.flatMap (·.2.nodeList)

/-- Fields with one of them set: in its place if there is one of that name, else at the end. -/
def setField (name : String) (slot : Slot Node) :
    List (String × Slot Node) → List (String × Slot Node)
  | [] => [(name, slot)]
  | (other, old) :: rest =>
    if other == name then (other, slot) :: rest else (other, old) :: setField name slot rest

/-- A node with one of its fields set. -/
def set (n : Node) (name : String) (slot : Slot Node) : Node :=
  .mk n.head (setField name slot n.fields)

/-- A node whose fields are given one after the other; the last of one name counts. -/
def ofFields (head : Head) (fields : List (String × Slot Node)) : Node :=
  fields.foldl (fun n (name, slot) => n.set name slot) (.mk head [])

@[simp] theorem head_mk (h : Head) (fs : List (String × Slot Node)) : (mk h fs).head = h := rfl
@[simp] theorem fields_mk (h : Head) (fs : List (String × Slot Node)) : (mk h fs).fields = fs := rfl

/-! ### Children are smaller -/

theorem sizeOf_lt_of_mem_nodeList {n : Node} {s : Slot Node} (h : n ∈ s.nodeList) :
    sizeOf n < sizeOf s := by
  have mem : Entry.node n ∈ s.entries := by
    obtain ⟨e, he, hn⟩ := List.mem_filterMap.1 h
    cases e with
    | node m => obtain rfl := Option.some.inj hn; exact he
    | null => cases hn
    | scalar _ => cases hn
  cases s with
  | one e =>
    obtain rfl := List.mem_singleton.1 mem
    simp only [Slot.one.sizeOf_spec, Entry.node.sizeOf_spec]
    omega
  | many es =>
    have := List.sizeOf_lt_of_mem (show Entry.node n ∈ es from mem)
    simp only [Slot.many.sizeOf_spec, Entry.node.sizeOf_spec] at *
    omega

theorem sizeOf_lt_of_mem_fields {p n : Node} {f : String × Slot Node} (hf : f ∈ p.fields)
    (hn : n ∈ f.2.nodeList) : sizeOf n < sizeOf p := by
  obtain ⟨h, fs⟩ := p
  obtain ⟨name, slot⟩ := f
  have a := List.sizeOf_lt_of_mem (show (name, slot) ∈ fs from hf)
  have b := sizeOf_lt_of_mem_nodeList hn
  simp only [Prod.mk.sizeOf_spec, Node.mk.sizeOf_spec] at *
  omega

/-- A child is smaller than its parent. -/
theorem sizeOf_lt_of_mem_children {p n : Node} (h : n ∈ p.children) : sizeOf n < sizeOf p := by
  obtain ⟨_, hf, hn⟩ := List.mem_flatMap.1 h
  exact sizeOf_lt_of_mem_fields hf hn

end Node

end PropOrder
