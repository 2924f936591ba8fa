import Mathlib.Algebra.Order.Group.Multiset
import Mathlib.Computability.StateTransition
import PropOrder.Node

/-!
# Objects in a store

A program as a machine holds it: every node is an object, kept in a store under a number, and the
fields of an object hold the numbers of other objects. Nothing in a store keeps an object from being
held by two fields, by none, or by itself, so that a store shows whether a program that was put
together in it is a tree.

The walk takes objects off a stack and puts their children on it; it may not come to an end. Linking
walks from a root and makes every object the parent of its children, and nothing else
(`parent?_foldl_adopt`, `content?_adopt`).
-/

namespace PropOrder

/-- The number that an object is kept under. -/
abbrev Ref := ℕ

/-- Named fields that hold nodes of some sort. -/
abbrev Fields (α : Type) := List (String × Slot α)

/-- A node with an identity of its own: what it is, what its fields refer to, and its parent. -/
structure Object where
  /-- What the node is, apart from its fields. -/
  head : Head
  /-- The fields in order. -/
  fields : Fields Ref
  /-- The parent, once it is set. -/
  parent : Option Ref

/-- The objects made so far, the first one first. -/
abbrev Store := List Object

/-! ### Slots of anything -/

namespace Slot
variable {α β : Type}

/-- Change the nodes of a slot. -/
def map (f : α → β) : Slot α → Slot β
  | one e => .one (e.map f)
  | many es => .many (es.map (Entry.map f))

theorem map_congr {f g : α → β} {s : Slot α} (h : ∀ r ∈ s.nodeList, f r = g r) :
    s.map f = s.map g := by
  have entry : ∀ e ∈ s.entries, e.map f = e.map g := by
    intro e he
    cases e with
    | null => rfl
    | scalar _ => rfl
    | node r => exact congrArg Entry.node (h r (List.mem_filterMap.2 ⟨_, he, rfl⟩))
  cases s with
  | one e => exact congrArg one (entry e (List.mem_singleton_self e))
  | many es => exact congrArg many (List.map_congr_left entry)

theorem nodeList_map (f : α → β) (s : Slot α) : (s.map f).nodeList = s.nodeList.map f := by
  have entry : ∀ e : Entry α, (e.map f).node? = e.node?.map f := by
    intro e
    cases e <;> rfl
  cases s with
  | one e => cases e <;> rfl
  | many es =>
    simp only [map, nodeList, entries, List.filterMap_map, List.map_filterMap, Function.comp_def,
      entry]

theorem isText_map (f : α → β) (s : Slot α) (text : String) :
    (s.map f).isText text = s.isText text := by
  cases s with
  | one e =>
    cases e with
    | null => rfl
    | scalar v => cases v <;> rfl
    | node _ => rfl
  | many es => rfl

end Slot

/-! ### Fields of anything -/

namespace Fields
variable {α β : Type} {name : String}

/-- Change the nodes of fields. -/
def mapNodes (f : α → β) (fields : Fields α) : Fields β :=
  fields.map fun field => (field.1, field.2.map f)

/-- The nodes that fields hold, in order. -/
def held (fields : Fields α) : List α := fields.flatMap (·.2.nodeList)

/-- Fields with one of them set: in its place if there is one of that name, else at the end. -/
def set (name : String) (slot : Slot α) : Fields α → Fields α
  | [] => [(name, slot)]
  | (other, old) :: rest =>
    if other == name then (other, slot) :: rest else (other, old) :: set name slot rest

theorem mapNodes_congr {f g : α → β} {fields : Fields α} (h : ∀ r ∈ fields.held, f r = g r) :
    fields.mapNodes f = fields.mapNodes g := by
  refine List.map_congr_left fun field hf => ?_
  rw [Slot.map_congr fun r hr => h r (List.mem_flatMap.2 ⟨field, hf, hr⟩)]

theorem held_mapNodes (f : α → β) (fields : Fields α) :
    (fields.mapNodes f).held = fields.held.map f := by
  simp only [held, mapNodes, List.flatMap_map, List.map_flatMap, Slot.nodeList_map]

theorem lookup_mapNodes (f : α → β) (fields : Fields α) :
    (fields.mapNodes f).lookup name = (fields.lookup name).map (Slot.map f) := by
  induction fields with
  | nil => rfl
  | cons field rest ih =>
    obtain ⟨other, slot⟩ := field
    simp only [mapNodes, List.map_cons, List.lookup_cons] at ih ⊢
    split
    · rfl
    · exact ih

theorem mapNodes_set (f : α → Node) (slot : Slot α) (fields : Fields α) :
    (fields.set name slot).mapNodes f = Node.setField name (slot.map f) (fields.mapNodes f) := by
  induction fields with
  | nil => rfl
  | cons field rest ih =>
    obtain ⟨other, old⟩ := field
    simp only [set, mapNodes, List.map_cons, Node.setField] at ih ⊢
    split
    · rfl
    · exact congrArg _ ih

/-- Fields with one of them set hold what was put in, and otherwise nothing new. -/
theorem held_set_le (slot : Slot α) (fields : Fields α) :
    ((fields.set name slot).held : Multiset α) ≤ slot.nodeList + fields.held := by
  induction fields with
  | nil => simp [set, held]
  | cons field rest ih =>
    obtain ⟨other, old⟩ := field
    simp only [set, held, List.flatMap_cons, ← Multiset.coe_add] at ih ⊢
    split
    · -- what the field held before is let go
      simp only [List.flatMap_cons, ← Multiset.coe_add]
      gcongr
      exact Multiset.le_add_left _ _
    · simp only [List.flatMap_cons, ← Multiset.coe_add]
      rw [add_left_comm]
      gcongr

end Fields

namespace Store

/-- What is kept under a number, apart from the parent. -/
def content? (σ : Store) (r : Ref) : Option (Head × Fields Ref) :=
  σ[r]?.map fun o => (o.head, o.fields)

/-- The parent of the object under a number, if it has one. -/
def parent? (σ : Store) (r : Ref) : Option Ref := σ[r]?.bind Object.parent

/-- The children of the object under a number, in the order of its fields. -/
def children (σ : Store) (r : Ref) : List Ref := ((σ.content? r).map (·.2.held)).getD []

/-- The name of the kind of the object under a number. -/
def kind (σ : Store) (r : Ref) : String := ((σ.content? r).map (·.1.kind)).getD ""

/-- What a field of the object under a number holds. -/
def get (σ : Store) (r : Ref) (name : String) : Slot Ref :=
  ((σ.content? r).bind (·.2.lookup name)).getD .null

/-! ### What a store shows -/

/-- Numbers with a node for each: every object is its head and the nodes of what it refers to. -/
def Shows (σ : Store) (V : Ref → Node) : Prop :=
  ∀ r head fields, σ.content? r = some (head, fields) → V r = .mk head (fields.mapNodes V)

/-- All references from the fields of objects, as often as they occur. -/
def edges (σ : Store) : Multiset Ref := (σ.flatMap (·.fields.held) : List Ref)

section Contents
variable {σ : Store} {o : Object} {r : Ref} {head : Head} {fields : Fields Ref}

theorem edges_append (σ : Store) (o : Object) : edges (σ ++ [o]) = σ.edges + o.fields.held := by
  simp only [edges, List.flatMap_append, List.flatMap_singleton, Multiset.coe_add]

theorem content?_eq_some_iff : σ.content? r = some (head, fields) ↔
    ∃ o, σ[r]? = some o ∧ o.head = head ∧ o.fields = fields := by
  simp only [content?, Option.map_eq_some_iff, Prod.mk.injEq]

theorem lt_of_content? (h : σ.content? r = some (head, fields)) : r < σ.length := by
  obtain ⟨o, ho, -⟩ := content?_eq_some_iff.1 h
  exact (List.getElem?_eq_some_iff.1 ho).1

theorem mem_edges_of_content? (h : σ.content? r = some (head, fields)) {c : Ref}
    (hc : c ∈ fields.held) : c ∈ σ.edges := by
  obtain ⟨o, ho, -, rfl⟩ := content?_eq_some_iff.1 h
  exact List.mem_flatMap.2 ⟨o, List.mem_of_getElem? ho, hc⟩

theorem children_of_content? (h : σ.content? r = some (head, fields)) :
    σ.children r = fields.held := by
  rw [children, h]
  rfl

theorem mem_children_iff {c : Ref} :
    c ∈ σ.children r ↔ ∃ o, σ[r]? = some o ∧ c ∈ o.fields.held := by
  rw [children, content?]
  cases σ[r]? with
  | none => simp
  | some o => simp

theorem mem_edges_of_mem_children {c : Ref} (h : c ∈ σ.children r) : c ∈ σ.edges := by
  obtain ⟨o, ho, hc⟩ := mem_children_iff.1 h
  exact List.mem_flatMap.2 ⟨o, List.mem_of_getElem? ho, hc⟩

/-- If no reference occurs twice, none occurs twice in the fields of one object. -/
theorem nodup_children (once : σ.edges.Nodup) (r : Ref) : (σ.children r).Nodup := by
  cases hr : σ[r]? with
  | none => simp [children, content?, hr]
  | some o =>
    rw [children_of_content? (content?_eq_some_iff.2 ⟨o, hr, rfl, rfl⟩)]
    exact (List.nodup_flatMap.1 once).1 o (List.mem_of_getElem? hr)

/-- If no reference occurs twice, no object is a child of two objects. -/
theorem eq_of_mem_children (once : σ.edges.Nodup) {p q c : Ref} (hp : c ∈ σ.children p)
    (hq : c ∈ σ.children q) : p = q := by
  have apart := List.pairwise_iff_getElem.1 (List.nodup_flatMap.1 once).2
  obtain ⟨a, ha, hca⟩ := mem_children_iff.1 hp
  obtain ⟨b, hb, hcb⟩ := mem_children_iff.1 hq
  obtain ⟨hi, rfl⟩ := List.getElem?_eq_some_iff.1 ha
  obtain ⟨hj, rfl⟩ := List.getElem?_eq_some_iff.1 hb
  rcases Nat.lt_trichotomy p q with lt | eq | lt
  · exact absurd hcb (apart p q hi hj lt hca)
  · exact eq
  · exact absurd hca (apart q p hj hi lt hcb)

theorem content?_append_of_lt (h : r < σ.length) :
    content? (σ ++ [o]) r = σ.content? r := by
  rw [content?, content?, List.getElem?_append_left h]

theorem content?_append_length (σ : Store) (o : Object) :
    content? (σ ++ [o]) σ.length = some (o.head, o.fields) := by
  simp [content?]

theorem lt_or_eq_of_content?_append (h : content? (σ ++ [o]) r = some (head, fields)) :
    r < σ.length ∨ r = σ.length := by
  have bound := lt_of_content? h
  rw [List.length_append, List.length_singleton] at bound
  exact Nat.lt_succ_iff_lt_or_eq.1 bound

/-- Set a field of the object under a number. -/
def setField (σ : Store) (r : Ref) (name : String) (slot : Slot Ref) : Store :=
  σ.modify r fun o => { o with fields := o.fields.set name slot }

theorem content?_setField_self (h : σ.content? r = some (head, fields)) (name : String)
    (slot : Slot Ref) :
    (σ.setField r name slot).content? r = some (head, fields.set name slot) := by
  obtain ⟨o, ho, rfl, rfl⟩ := content?_eq_some_iff.1 h
  simp [content?, setField, ho]

theorem content?_setField_of_ne {c : Ref} (h : r ≠ c) (name : String) (slot : Slot Ref) :
    (σ.setField r name slot).content? c = σ.content? c := by
  simp only [content?, setField, List.getElem?_modify, if_neg h, id, Option.map_eq_map,
    Option.map_id_fun']

theorem edges_setField_le (σ : Store) (r : Ref) (name : String) (slot : Slot Ref) :
    (σ.setField r name slot).edges ≤ slot.nodeList + σ.edges := by
  simp only [edges, setField]
  induction σ generalizing r with
  | nil =>
    rw [List.modify_nil]
    exact Multiset.zero_le _
  | cons o σ ih =>
    cases r with
    | zero =>
      simp only [List.modify_zero_cons, List.flatMap_cons, ← Multiset.coe_add, ← add_assoc]
      gcongr
      exact Fields.held_set_le slot o.fields
    | succ r =>
      simp only [List.modify_succ_cons, List.flatMap_cons, ← Multiset.coe_add] at ih ⊢
      rw [add_left_comm]
      gcongr
      exact ih r

theorem head_of_mem_setField {name : String} {slot : Slot Ref} (h : o ∈ σ.setField r name slot) :
    ∃ o' ∈ σ, o.head = o'.head := by
  obtain ⟨c, hc⟩ := List.mem_iff_getElem?.1 h
  rw [setField, List.getElem?_modify] at hc
  obtain ⟨o', ho', rfl⟩ := Option.map_eq_some_iff.1 hc
  refine ⟨o', List.mem_of_getElem? ho', ?_⟩
  split <;> rfl

end Contents

/-! ### The walk -/

/-- A turn of the walk, with the objects met and those on the stack: the first on the stack is met
and makes place for its children. -/
def turn (children : Ref → List Ref) : List Ref × List Ref → Option (List Ref × List Ref)
  | (_, []) => none
  | (met, r :: stack) => some (met ++ [r], children r ++ stack)

/-- The objects met on the walk from an object, if it ends. -/
def walk (σ : Store) : Ref →. List Ref := fun r =>
  (StateTransition.eval (turn σ.children) ([], [r])).map Prod.fst

/-! ### Linking -/

/-- Set the parent of an object. -/
def setParent (σ : Store) (parent : Option Ref) (r : Ref) : Store :=
  σ.modify r fun o => { o with parent := parent }

/-- Make an object the parent of its children. -/
def adopt (σ : Store) (r : Ref) : Store := (σ.children r).foldl (setParent · (some r)) σ

/-- Make the objects met on the walk from a root the parents of their children. The walk reads no
parents, so that it may as well be finished first. -/
def link (σ : Store) : Ref →. Store := fun root =>
  let free := σ.setParent none root
  (free.walk root).map fun met => met.foldl adopt free

section Link
variable {σ τ : Store} {p r c : Ref} {parent : Option Ref}

theorem content?_setParent (σ : Store) (parent : Option Ref) (r : Ref) :
    (σ.setParent parent r).content? = σ.content? := by
  funext c
  simp only [content?, setParent, List.getElem?_modify]
  cases σ[c]? with
  | none => rfl
  | some o => by_cases h : r = c <;> simp [h]

theorem content?_foldl {f : Store → Ref → Store} (h : ∀ σ r, (f σ r).content? = σ.content?)
    (l : List Ref) (σ : Store) : (l.foldl f σ).content? = σ.content? := by
  induction l generalizing σ with
  | nil => rfl
  | cons r l ih => rw [List.foldl_cons, ih, h]

theorem content?_adopt (σ : Store) (r : Ref) : (σ.adopt r).content? = σ.content? :=
  content?_foldl (fun σ _ => content?_setParent σ _ _) _ σ

theorem children_congr (h : σ.content? = τ.content?) : σ.children = τ.children := by
  funext r
  rw [children, children, h]

theorem parent?_setParent_self (kept : (σ.content? c).isSome) :
    (σ.setParent parent c).parent? c = parent := by
  simp only [content?, Option.isSome_map] at kept
  obtain ⟨o, ho⟩ := Option.isSome_iff_exists.1 kept
  simp [parent?, setParent, ho]

theorem parent?_setParent_of_ne (h : r ≠ c) :
    (σ.setParent parent r).parent? c = σ.parent? c := by
  simp only [parent?, setParent, List.getElem?_modify, if_neg h, id, Option.map_eq_map,
    Option.map_id_fun']

/-- The parent of an object after some objects were given a parent. -/
theorem parent?_foldl_setParent (kept : (σ.content? c).isSome) (rs : List Ref) :
    (rs.foldl (setParent · parent) σ).parent? c = if c ∈ rs then parent else σ.parent? c := by
  induction rs generalizing σ with
  | nil => simp
  | cons r rs ih =>
    rw [List.foldl_cons, ih (by rwa [content?_setParent])]
    by_cases h : r = c
    · subst h
      simp [parent?_setParent_self kept]
    · rw [parent?_setParent_of_ne h]
      simp [Ne.symm h]

/-- An object that is a child of one object at most has that one as its parent after some objects
adopted their children, if it is one of them. -/
theorem parent?_foldl_adopt (kept : (σ.content? c).isSome) {rs : List Ref}
    (only : ∀ r ∈ rs, c ∈ σ.children r → r = p) : (rs.foldl adopt σ).parent? c =
      if p ∈ rs ∧ c ∈ σ.children p then some p else σ.parent? c := by
  induction rs generalizing σ with
  | nil => simp
  | cons r rs ih =>
    have same := content?_adopt σ r
    have children := children_congr same
    rw [List.foldl_cons, ih (by rwa [same]) fun q hq hc => only q (List.mem_cons_of_mem _ hq)
      (by rwa [children] at hc), children, adopt, parent?_foldl_setParent kept]
    by_cases child : c ∈ σ.children r
    · obtain rfl := only r (List.mem_cons_self ..) child
      simp [child]
    · have other : p = r → c ∉ σ.children p := fun h => h ▸ child
      by_cases hp : p = r
      · simp [child, other hp]
      · simp [child, hp]

end Link

end Store

end PropOrder
