import PropOrder.Node

/-!
# Sites

A site is a node together with the way from the root to it. Two nodes of equal content at two
places of a program are two sites, and a site knows its parent. A step of the way is the number
of a field and the number of an item in it; the steps up to the root are the address of a site, and
sites of one program are the same exactly when their addresses agree.

`Site.walk` lists a site and all sites under it, each parent before its children and the children
in the order of the fields.
-/

namespace PropOrder

/-- A step from a node to one of its children. -/
structure Crumb where
  /-- The node that the step leaves. -/
  parent : Node
  /-- The number of the field that holds the child. -/
  slot : Nat
  /-- The number of the child among the entries of that field. -/
  item : Nat

/-- A node and the steps from it up to the root, the nearest first. -/
structure Site where
  /-- The node. -/
  node : Node
  /-- The steps up to the root. -/
  crumbs : List Crumb

/-- What a field of a site holds. -/
abbrev Value := Slot Site

namespace Site

/-- The site of the root of a program. -/
def root (n : Node) : Site := ⟨n, []⟩

/-- The name of the kind of a site. -/
def kind (s : Site) : String := s.node.kind

/-- The bytes of the source that a site covers. -/
def span (s : Site) : Span := s.node.span

/-- The rows and columns of a site, if they are known. -/
def location (s : Site) : Option Location := s.node.location

/-- The steps from a site up to the root, without the nodes on the way. -/
def address (s : Site) : List (Nat × Nat) := s.crumbs.map fun c => (c.slot, c.item)

/-- Whether two sites of one program are the same. -/
def same (a b : Site) : Bool := a.address == b.address

/-- Whether a site is the root. -/
def isRoot (s : Site) : Bool := s.crumbs.isEmpty

/-- The parent of a site; the root has none. -/
def parent? : Site → Option Site
  | ⟨_, []⟩ => none
  | ⟨_, c :: crumbs⟩ => some ⟨c.parent, crumbs⟩

/-- A site and its ancestors, given as a node and the steps above it. -/
def lineageFrom (n : Node) : List Crumb → List Site
  | [] => [⟨n, []⟩]
  | c :: crumbs => ⟨n, c :: crumbs⟩ :: lineageFrom c.parent crumbs

/-- A site and its ancestors, the nearest first. -/
def lineage (s : Site) : List Site := lineageFrom s.node s.crumbs

/-- The site of a child in a field, by the numbers of the field and of the item. -/
def below (s : Site) (slot item : Nat) (n : Node) : Site := ⟨n, ⟨s.node, slot, item⟩ :: s.crumbs⟩

/-- A field of the node of a site, with its nodes as sites. -/
def lift (s : Site) (slot : Nat) : Slot Node → Value
  | .one e => .one (e.map (s.below slot 0))
  | .many es => .many (es.mapIdx fun item e => e.map (s.below slot item))

/-- The fields of a site in order. -/
def fields (s : Site) : List (String × Value) :=
  s.node.fields.mapIdx fun slot f => (f.1, s.lift slot f.2)

/-- What a field of a site holds; a field that the node does not have holds nothing. -/
def get (s : Site) (name : String) : Value := (s.fields.lookup name).getD .null

/-- The children of a site, in the order of its fields. -/
def children (s : Site) : List Site := s.fields.flatMap (·.2.nodeList)

/-! ### Children are one step below -/

theorem mem_nodeList_lift {s c : Site} {slot : Nat} {v : Slot Node}
    (h : c ∈ (s.lift slot v).nodeList) :
    ∃ item n, n ∈ v.nodeList ∧ c = s.below slot item n := by
  obtain ⟨e, he, hc⟩ := List.mem_filterMap.1 h
  cases v with
  | one d =>
    obtain rfl := List.mem_singleton.1 he
    cases d with
    | node n =>
      refine ⟨0, n, ?_, (Option.some.inj hc).symm⟩
      simp [Slot.nodeList, Slot.entries, Entry.node?]
    | null => cases hc
    | scalar _ => cases hc
  | many ds =>
    obtain ⟨item, hi, rfl⟩ := List.mem_mapIdx.1 he
    cases hd : ds[item] with
    | node n =>
      rw [hd] at hc
      refine ⟨item, n, ?_, (Option.some.inj hc).symm⟩
      exact List.mem_filterMap.2 ⟨.node n, hd ▸ List.getElem_mem hi, rfl⟩
    | null => rw [hd] at hc; cases hc
    | scalar _ => rw [hd] at hc; cases hc

theorem mem_children {s c : Site} (h : c ∈ s.children) :
    ∃ slot item n, n ∈ s.node.children ∧ c = s.below slot item n := by
  obtain ⟨f, hf, hc⟩ := List.mem_flatMap.1 h
  obtain ⟨slot, hs, rfl⟩ := List.mem_mapIdx.1 hf
  obtain ⟨item, n, hn, rfl⟩ := mem_nodeList_lift hc
  exact ⟨slot, item, n, List.mem_flatMap.2 ⟨_, List.getElem_mem hs, hn⟩, rfl⟩

/-- The node of a child is smaller. -/
theorem sizeOf_lt_of_mem_children {s c : Site} (h : c ∈ s.children) :
    sizeOf c.node < sizeOf s.node := by
  obtain ⟨_, _, n, hn, rfl⟩ := mem_children h
  exact Node.sizeOf_lt_of_mem_children hn

/-- The parent of a child is the site itself. -/
theorem parent?_of_mem_children {s c : Site} (h : c ∈ s.children) : c.parent? = some s := by
  obtain ⟨_, _, _, _, rfl⟩ := mem_children h
  rfl

/-! ### Fields by name -/

theorem mem_of_get_nodeList {s c : Site} {name : String} (h : c ∈ (s.get name).nodeList) :
    c ∈ s.children := by
  unfold get at h
  cases hf : s.fields.lookup name with
  | none => simp [hf, Slot.nodeList, Slot.entries, Entry.node?] at h
  | some v =>
    obtain ⟨l₁, l₂, hl, -⟩ := List.lookup_eq_some_iff.1 hf
    rw [hf] at h
    exact List.mem_flatMap.2 ⟨(name, v), by simp [hl], h⟩

/-- A node found in a field is smaller than the node that has the field. -/
theorem sizeOf_lt_of_mem_get {s c : Site} {name : String} (h : c ∈ (s.get name).nodeList) :
    sizeOf c.node < sizeOf s.node :=
  sizeOf_lt_of_mem_children (mem_of_get_nodeList h)

/-! ### The walk -/

/-- A site and all sites under it, parents first, in the order of the fields. -/
def walk (s : Site) : List Site :=
  s :: s.children.attach.flatMap fun c => walk c.1
termination_by sizeOf s.node
decreasing_by exact sizeOf_lt_of_mem_children c.2

/-- The walk is the site followed by the walks of its children. -/
theorem walk_eq (s : Site) : s.walk = s :: s.children.flatMap walk := by
  rw [walk]
  simp [List.flatMap_subtype]

end Site

end PropOrder
