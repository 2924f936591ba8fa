import Mathlib.Data.List.Nodup
import Mathlib.Data.List.Lemmas
import PropOrder.Kinds

/-!
# The sites of a program

The walk from a site lists every site under it once. What tells the sites of a program apart is
their address alone (`eq_of_address_eq`), because a step determines the child that it leads to
(`mem_children_iff`). A site lies directly under another when it is strictly below it with no
function between the two; ownership asks for just that (`ownedBy_iff`).
-/

namespace PropOrder

/-- The child at the given number of a field and number of an item, if a node is there. -/
def Node.childAt (n : Node) (slot item : ℕ) : Option Node :=
  n.fields[slot]?.bind fun f => f.2.entries[item]?.bind Entry.node?

theorem Slot.nodeList_nodes {α : Type} (ns : List α) : (Slot.nodes ns).nodeList = ns := by
  induction ns with
  | nil => rfl
  | cons n ns ih => simpa [Slot.nodeList, Slot.entries, Entry.node?] using ih

namespace Site
variable {r s t c d f : Site}

/-! ### Children -/

theorem node?_map {α β : Type} (g : α → β) (e : Entry α) : (e.map g).node? = e.node?.map g := by
  cases e <;> rfl

theorem entries_lift (s : Site) (slot : ℕ) (v : Slot Node) :
    (s.lift slot v).entries = v.entries.mapIdx fun item e => e.map (s.below slot item) := by
  cases v <;> rfl

theorem mem_nodeList_lift_iff {slot : ℕ} {v : Slot Node} : c ∈ (s.lift slot v).nodeList ↔
    ∃ item n, v.entries[item]?.bind Entry.node? = some n ∧ c = s.below slot item n := by
  simp only [Slot.nodeList, entries_lift, List.mem_filterMap, List.mem_mapIdx,
    Option.bind_eq_some_iff]
  constructor
  · rintro ⟨_, ⟨item, hi, rfl⟩, he⟩
    rw [node?_map] at he
    obtain ⟨n, hn, rfl⟩ := Option.map_eq_some_iff.1 he
    exact ⟨item, n, ⟨_, List.getElem?_eq_getElem hi, hn⟩, rfl⟩
  · rintro ⟨item, n, ⟨e, he, hn⟩, rfl⟩
    obtain ⟨hi, rfl⟩ := List.getElem?_eq_some_iff.1 he
    exact ⟨_, ⟨item, hi, rfl⟩, by rw [node?_map, hn]; rfl⟩

theorem map_flatMap_mapIdx {α β γ δ : Type} {f : ℕ → α → β} {g : β → List γ} {k : γ → δ}
    {m : α → List δ} (h : ∀ i a, (g (f i a)).map k = m a) (l : List α) :
    ((l.mapIdx f).flatMap g).map k = l.flatMap m := by
  induction l generalizing f with
  | nil => rfl
  | cons a l ih =>
    rw [List.mapIdx_cons, List.flatMap_cons, List.map_append, h, ih fun i => h (i + 1),
      List.flatMap_cons]

/-- The sites in a field of a site are the nodes in the field of its node. -/
theorem map_node_nodeList_lift (s : Site) (slot : ℕ) (v : Slot Node) :
    (s.lift slot v).nodeList.map node = v.nodeList := by
  have entry : ∀ item (e : Entry Node),
      (e.map (s.below slot item)).node?.toList.map node = e.node?.toList := by
    intro item e
    cases e <;> rfl
  rw [Slot.nodeList, Slot.nodeList, entries_lift, List.filterMap_eq_flatMap_toList,
    List.filterMap_eq_flatMap_toList]
  exact map_flatMap_mapIdx (g := fun e : Entry Site => e.node?.toList) entry _

/-- The children of a site are the children of its node. -/
theorem map_node_children (s : Site) : s.children.map node = s.node.children :=
  map_flatMap_mapIdx (fun slot field => map_node_nodeList_lift s slot field.2) s.node.fields

/-- A child is what a step leads to. -/
theorem mem_children_iff : c ∈ s.children ↔
    ∃ slot item n, s.node.childAt slot item = some n ∧ c = s.below slot item n := by
  simp only [children, fields, List.mem_flatMap, List.mem_mapIdx, Node.childAt,
    Option.bind_eq_some_iff]
  constructor
  · rintro ⟨_, ⟨slot, hs, rfl⟩, hc⟩
    obtain ⟨item, n, hn, rfl⟩ := mem_nodeList_lift_iff.1 hc
    exact ⟨slot, item, n, ⟨_, List.getElem?_eq_getElem hs, Option.bind_eq_some_iff.1 hn⟩, rfl⟩
  · rintro ⟨slot, item, n, ⟨field, hf, hn⟩, rfl⟩
    obtain ⟨hs, rfl⟩ := List.getElem?_eq_some_iff.1 hf
    exact ⟨_, ⟨slot, hs, rfl⟩, mem_nodeList_lift_iff.2 ⟨item, n, Option.bind_eq_some_iff.2 hn, rfl⟩⟩

theorem crumbs_length_of_mem_children (h : c ∈ s.children) :
    c.crumbs.length = s.crumbs.length + 1 := by
  obtain ⟨_, _, _, _, rfl⟩ := mem_children_iff.1 h
  rfl

/-- Children of one site that have the same address are the same. -/
theorem eq_of_mem_children (hc : c ∈ s.children) (hd : d ∈ s.children)
    (h : c.address = d.address) : c = d := by
  obtain ⟨i, j, n, hn, rfl⟩ := mem_children_iff.1 hc
  obtain ⟨i', j', n', hn', rfl⟩ := mem_children_iff.1 hd
  have step : (i, j) = (i', j') := (List.cons.inj h).1
  obtain ⟨rfl, rfl⟩ := Prod.mk.inj step
  obtain rfl : n = n' := Option.some.inj (hn.symm.trans hn')
  rfl

theorem pairwise_nodeList_lift (s : Site) (slot : ℕ) (v : Slot Node) :
    (s.lift slot v).nodeList.Pairwise (· ≠ ·) := by
  rw [Slot.nodeList, entries_lift, List.pairwise_filterMap, List.pairwise_iff_getElem]
  rintro i j hi hj hij c hc _ hc' rfl
  rw [List.getElem_mapIdx, node?_map] at hc hc'
  obtain ⟨n, -, rfl⟩ := Option.map_eq_some_iff.1 hc
  obtain ⟨m, -, h⟩ := Option.map_eq_some_iff.1 hc'
  have item : j = i := congrArg Crumb.item (List.cons.inj (congrArg crumbs h)).1
  omega

/-- No child is listed twice. -/
theorem nodup_children (s : Site) : s.children.Nodup := by
  rw [children, fields, List.nodup_flatMap]
  constructor
  · rintro _ hf
    obtain ⟨slot, hs, rfl⟩ := List.mem_mapIdx.1 hf
    exact pairwise_nodeList_lift s slot _
  · rw [List.pairwise_iff_getElem]
    intro i j hi hj hij c hc hc'
    rw [List.getElem_mapIdx] at hc hc'
    obtain ⟨_, _, -, rfl⟩ := mem_nodeList_lift_iff.1 hc
    obtain ⟨_, _, -, h⟩ := mem_nodeList_lift_iff.1 hc'
    have slot : i = j := congrArg Crumb.slot (List.cons.inj (congrArg crumbs h)).1
    omega

/-! ### The walk -/

theorem mem_walk_self (s : Site) : s ∈ s.walk := by
  rw [walk_eq]
  exact List.mem_cons_self ..

theorem mem_walk_iff : s ∈ r.walk ↔ s = r ∨ ∃ c ∈ r.children, s ∈ c.walk := by
  rw [walk_eq, List.mem_cons, List.mem_flatMap]

/-- What holds of the start of a walk and of the children of whatever it holds of holds on the
whole walk. -/
theorem walk_induction {r : Site} {P : Site → Prop} (start : P r)
    (step : ∀ s ∈ r.walk, P s → ∀ c ∈ s.children, P c) : ∀ s ∈ r.walk, P s := by
  intro s hs
  rcases mem_walk_iff.1 hs with rfl | ⟨c, hc, hs⟩
  · exact start
  · have below : ∀ t ∈ c.walk, t ∈ r.walk := fun t ht => mem_walk_iff.2 (.inr ⟨c, hc, ht⟩)
    -- the child is settled first, and then whatever is under it
    exact walk_induction (step r (mem_walk_self r) start c hc)
      (fun t ht => step t (below t ht)) s hs
termination_by sizeOf r.node
decreasing_by exact sizeOf_lt_of_mem_children hc

theorem mem_walk_trans {r : Site} (hs : s ∈ r.walk) (ht : t ∈ s.walk) : t ∈ r.walk := by
  rcases mem_walk_iff.1 hs with rfl | ⟨c, hc, hs⟩
  · exact ht
  · exact mem_walk_iff.2 (.inr ⟨c, hc, mem_walk_trans hs ht⟩)
termination_by sizeOf r.node
decreasing_by exact sizeOf_lt_of_mem_children hc

theorem mem_walk_of_mem_children (hs : s ∈ r.walk) (hc : c ∈ s.children) : c ∈ r.walk :=
  mem_walk_trans hs (mem_walk_iff.2 (.inr ⟨c, hc, mem_walk_self c⟩))

/-- On the walk a site is the start or a child of another site. -/
theorem eq_or_mem_children (hs : s ∈ r.walk) : s = r ∨ ∃ p ∈ r.walk, s ∈ p.children := by
  refine walk_induction (P := fun s => s = r ∨ ∃ p ∈ r.walk, s ∈ p.children) (.inl rfl) ?_ s hs
  intro p hp _ c hc
  exact .inr ⟨p, hp, hc⟩

theorem suffix_of_mem_walk (hs : s ∈ r.walk) : r.crumbs <:+ s.crumbs := by
  refine walk_induction (P := fun s => r.crumbs <:+ s.crumbs) (List.suffix_refl _) ?_ s hs
  intro p _ hp c hc
  obtain ⟨slot, item, n, -, rfl⟩ := mem_children_iff.1 hc
  exact hp.trans (List.suffix_cons _ _)

/-- Sites of one walk are the same when their addresses agree. -/
theorem eq_of_address_eq (hs : s ∈ r.walk) (ht : t ∈ r.walk) (h : s.address = t.address) :
    s = t := by
  -- addresses grow on the way down, so that no other site has the address of the start
  have size : ∀ u ∈ r.walk, ∀ p ∈ r.walk, u ∈ p.children → r.crumbs.length < u.crumbs.length := by
    intro u _ p hp hu
    have := (suffix_of_mem_walk hp).length_le
    have := crumbs_length_of_mem_children hu
    omega
  refine walk_induction (P := fun s => ∀ t ∈ r.walk, s.address = t.address → s = t)
    ?_ ?_ s hs t ht h
  · intro t ht h
    rcases eq_or_mem_children ht with rfl | ⟨p, hp, htp⟩
    · rfl
    · have := size t ht p hp htp
      have := congrArg List.length h
      simp only [address, List.length_map] at this
      omega
  · intro p hp ih c hc t ht h
    rcases eq_or_mem_children ht with rfl | ⟨q, hq, htq⟩
    · have := size c (mem_walk_of_mem_children hp hc) p hp hc
      have := congrArg List.length h
      simp only [address, List.length_map] at this
      omega
    -- the rest of an address is the address of the parent, and its first step tells the child
    · have up : p.address = q.address := by
        obtain ⟨_, _, _, _, rfl⟩ := mem_children_iff.1 hc
        obtain ⟨_, _, _, _, rfl⟩ := mem_children_iff.1 htq
        exact (List.cons.inj h).2
      obtain rfl := ih q hq up
      exact eq_of_mem_children hc htq h

theorem same_iff (hs : s ∈ r.walk) (ht : t ∈ r.walk) : s.same t = true ↔ s = t := by
  rw [same, beq_iff_eq]
  exact ⟨eq_of_address_eq hs ht, fun h => h ▸ rfl⟩

/-- No site is listed twice. -/
theorem nodup_walk (r : Site) : r.walk.Nodup := by
  rw [walk_eq, List.nodup_cons, List.nodup_flatMap]
  refine ⟨?_, fun c hc => nodup_walk c, ?_⟩
  · rw [List.mem_flatMap]
    rintro ⟨c, hc, hr⟩
    have := (suffix_of_mem_walk hr).length_le
    have := crumbs_length_of_mem_children hc
    omega
  -- a site in the walks of two children would have the crumbs of both behind its own
  · refine (nodup_children r).imp_of_mem fun {c d} hc hd hcd s hs hs' => hcd ?_
    have size := (crumbs_length_of_mem_children hc).trans (crumbs_length_of_mem_children hd).symm
    have crumbs : c.crumbs = d.crumbs :=
      (List.suffix_of_suffix_length_le (suffix_of_mem_walk hs) (suffix_of_mem_walk hs')
        size.le).eq_of_length size
    exact eq_of_mem_children hc hd (congrArg (List.map _) crumbs)
termination_by sizeOf r.node
decreasing_by exact sizeOf_lt_of_mem_children hc

/-! ### The way up -/

theorem lineage_cons (s : Site) : s.lineage = s :: (s.parent?.map lineage).getD [] := by
  obtain ⟨n, _ | ⟨c, crumbs⟩⟩ := s <;> rfl

theorem lineage_of_mem_children (h : c ∈ s.children) : c.lineage = c :: s.lineage := by
  rw [lineage_cons, parent?_of_mem_children h]
  rfl

/-- The ancestors of an ancestor stand behind it. -/
theorem lineage_of_lineage_eq_append {l₁ l₂ : List Site} {a : Site}
    (h : s.lineage = l₁ ++ a :: l₂) : a :: l₂ = a.lineage := by
  induction l₁ generalizing s with
  | nil =>
    rw [lineage_cons] at h ⊢
    obtain ⟨rfl, hl⟩ := List.cons.inj h
    rw [hl]
  | cons b l₁ ih =>
    rw [lineage_cons] at h
    obtain ⟨-, hl⟩ := List.cons.inj h
    cases hp : s.parent? with
    | none => simp [hp] at hl
    | some p => exact ih (by simpa [hp] using hl)

/-- On the walk from the root a parent is on the walk, with the site among its children. -/
theorem mem_children_of_parent? {n : Node} {p : Site} (hs : s ∈ (root n).walk)
    (h : s.parent? = some p) : p ∈ (root n).walk ∧ s ∈ p.children := by
  rcases eq_or_mem_children hs with rfl | ⟨q, hq, hsq⟩
  · cases h
  · obtain rfl : q = p := Option.some.inj ((parent?_of_mem_children hsq).symm.trans h)
    exact ⟨hq, hsq⟩

/-! ### Fields by name -/

theorem lookup_mapIdx (l : List (String × Slot Node)) (g : ℕ → Slot Node → Value) (name : String) :
    (l.lookup name = none ∧ (l.mapIdx fun i field => (field.1, g i field.2)).lookup name = none) ∨
      ∃ i v, l[i]? = some (name, v) ∧ l.lookup name = some v ∧
        (l.mapIdx fun i field => (field.1, g i field.2)).lookup name = some (g i v) := by
  induction l generalizing g with
  | nil => exact .inl ⟨rfl, rfl⟩
  | cons field l ih =>
    obtain ⟨other, v⟩ := field
    rw [List.mapIdx_cons]
    by_cases hn : name = other
    · subst hn
      exact .inr ⟨0, v, rfl, List.lookup_cons_self .., List.lookup_cons_self ..⟩
    · have hb : (name == other) = false := beq_false_of_ne hn
      simp only [List.lookup_cons, hb]
      rcases ih fun i => g (i + 1) with h | ⟨i, v, hi, hv⟩
      · exact .inl h
      · exact .inr ⟨i + 1, v, hi, hv⟩

/-- What a field of a site holds is what the field of the node holds, seen from the site. -/
theorem get_eq (s : Site) (name : String) : (s.node.get name = .null ∧ s.get name = .null) ∨
    ∃ slot, s.node.fields[slot]? = some (name, s.node.get name) ∧
      s.get name = s.lift slot (s.node.get name) := by
  rcases lookup_mapIdx s.node.fields s.lift name with ⟨hn, hs⟩ | ⟨slot, v, hv, hn, hs⟩
  · exact .inl ⟨by rw [Node.get, hn]; rfl, by rw [get, fields, hs]; rfl⟩
  · have hv' : s.node.get name = v := by rw [Node.get, hn]; rfl
    exact .inr ⟨slot, by rw [hv', hv], by rw [get, fields, hs, hv']; rfl⟩

theorem map_node_nodeList_get (s : Site) (name : String) :
    (s.get name).nodeList.map node = (s.node.get name).nodeList := by
  rcases get_eq s name with ⟨hn, hs⟩ | ⟨slot, -, hs⟩
  · rw [hn, hs]
    rfl
  · rw [hs, map_node_nodeList_lift]

theorem mem_children_of_get {name : String} (h : s.get name = .node c) : c ∈ s.children :=
  mem_of_get_nodeList (show c ∈ (s.get name).nodeList by
    simp [h, Slot.nodeList, Slot.entries, Entry.node?])

theorem mem_children_of_get_nodes {name : String} {sites : List Site}
    (h : s.get name = .nodes sites) (hc : c ∈ sites) : c ∈ s.children := by
  have listed : c ∈ (s.get name).nodeList := by rwa [h, Slot.nodeList_nodes]
  exact mem_of_get_nodeList listed

theorem mem_walk_of_get {name : String} (hs : s ∈ r.walk) (h : s.get name = .node c) :
    c ∈ r.walk :=
  mem_walk_of_mem_children hs (mem_children_of_get h)

/-- Fields of different names hold different children. -/
theorem eq_of_mem_get {a b : String} (ha : c ∈ (s.get a).nodeList) (hb : c ∈ (s.get b).nodeList) :
    a = b := by
  -- the last step on the way to a child tells the field
  have slotOf : ∀ name, c ∈ (s.get name).nodeList →
      ∃ crumb v, c.crumbs.head? = some crumb ∧ s.node.fields[crumb.slot]? = some (name, v) := by
    intro name h
    rcases get_eq s name with ⟨-, hnull⟩ | ⟨slot, hv, hs⟩
    · rw [hnull] at h
      cases h
    · rw [hs] at h
      obtain ⟨item, n, -, rfl⟩ := mem_nodeList_lift_iff.1 h
      exact ⟨⟨s.node, slot, item⟩, _, rfl, hv⟩
  obtain ⟨x, v, hx, hv⟩ := slotOf a ha
  obtain ⟨y, w, hy, hw⟩ := slotOf b hb
  obtain rfl : x = y := Option.some.inj (hx.symm.trans hy)
  exact congrArg Prod.fst (Option.some.inj (hv.symm.trans hw))

theorem nodup_get (s : Site) (name : String) : (s.get name).nodeList.Nodup := by
  rcases get_eq s name with ⟨-, h⟩ | ⟨slot, -, h⟩
  · rw [h]
    exact List.nodup_nil
  · rw [h]
    exact pairwise_nodeList_lift s slot _

/-! ### Lying directly under a site -/

/-- A site lies directly under another: it is strictly below it with no function in between. -/
def DirectlyUnder (s f : Site) : Prop :=
  ∃ between, s.lineage = s :: (between ++ f.lineage) ∧ ∀ g ∈ between, g.isFunctionLike = false

theorem DirectlyUnder.of_mem_children (h : c ∈ f.children) : c.DirectlyUnder f :=
  ⟨[], lineage_of_mem_children h, by simp⟩

/-- Below a site that is no function nothing new comes in between. -/
theorem DirectlyUnder.child (h : s.DirectlyUnder f) (hs : s.isFunctionLike = false)
    (hc : c ∈ s.children) : c.DirectlyUnder f := by
  obtain ⟨between, hl, hb⟩ := h
  refine ⟨s :: between, by rw [lineage_of_mem_children hc, hl]; rfl, ?_⟩
  intro g hg
  rcases List.mem_cons.1 hg with rfl | hg
  · exact hs
  · exact hb g hg

/-- The parent of a site directly under another is that one, or no function and directly under
it. -/
theorem DirectlyUnder.parent (h : c.DirectlyUnder f) (hc : c ∈ s.children) :
    s = f ∨ (s.DirectlyUnder f ∧ s.isFunctionLike = false) := by
  obtain ⟨between, hl, hb⟩ := h
  rw [lineage_of_mem_children hc, List.cons_inj_right] at hl
  cases between with
  | nil =>
    rw [List.nil_append, lineage_cons s, lineage_cons f] at hl
    exact .inl (List.cons.inj hl).1
  | cons b between =>
    have first : s = b := by
      rw [lineage_cons s] at hl
      exact (List.cons.inj hl).1
    subst first
    refine .inr ⟨⟨between, hl, fun g hg => hb g (List.mem_cons_of_mem _ hg)⟩, ?_⟩
    exact hb s (List.mem_cons_self ..)

theorem length_lineage (s : Site) : s.lineage.length = s.crumbs.length + 1 := by
  obtain ⟨n, crumbs⟩ := s
  show (lineageFrom n crumbs).length = crumbs.length + 1
  induction crumbs generalizing n with
  | nil => rfl
  | cons c crumbs ih => rw [lineageFrom, List.length_cons, ih c.parent, List.length_cons]

theorem mem_walk_of_mem_lineage {n : Node} (hs : s ∈ (root n).walk) :
    ∀ a ∈ s.lineage, a ∈ (root n).walk := by
  refine walk_induction (P := fun s => ∀ a ∈ s.lineage, a ∈ (root n).walk) ?_ ?_ s hs
  · intro a ha
    obtain rfl := List.mem_singleton.1 ha
    exact mem_walk_self _
  · intro p hp ih c hc a ha
    rw [lineage_of_mem_children hc] at ha
    rcases List.mem_cons.1 ha with rfl | ha
    · exact mem_walk_of_mem_children hp hc
    · exact ih a ha

/-- What stands in front of the lineage of a site is below the site. -/
theorem not_same_of_lineage_eq_append {front : List Site} (h : s.lineage = front ++ f.lineage) :
    ∀ a ∈ front, a.same f = false := by
  intro a ha
  obtain ⟨l₁, l₂, rfl⟩ := List.append_of_mem ha
  have up : a :: (l₂ ++ f.lineage) = a.lineage :=
    lineage_of_lineage_eq_append (by simpa using h)
  -- below the site a lineage is longer
  have size := congrArg List.length up
  rw [List.length_cons, List.length_append, length_lineage, length_lineage] at size
  rw [same, beq_eq_false_iff_ne]
  intro eq
  have := congrArg List.length eq
  simp only [address, List.length_map] at this
  omega

/-- A site belongs to a given one if it is that one, or else no function and directly under it. -/
theorem ownedBy_iff {n : Node} (hs : s ∈ (root n).walk) (hf : f ∈ (root n).walk) :
    s.ownedBy f = true ↔ s = f ∨ (s.DirectlyUnder f ∧ s.isFunctionLike = false) := by
  simp only [ownedBy, nearestBoundary?, Option.any_eq_true, List.find?_eq_some_iff_append]
  constructor
  · rintro ⟨a, ⟨-, front, back, hl, hfront⟩, ha⟩
    have hmem : a ∈ (root n).walk := mem_walk_of_mem_lineage hs a (by simp [hl])
    obtain rfl := (same_iff hmem hf).1 ha
    -- the first boundary on the way up is the given site, and nothing in front of it is one
    have up := lineage_of_lineage_eq_append hl
    cases front with
    | nil =>
      rw [List.nil_append, up, lineage_cons s, lineage_cons a] at hl
      exact .inl (List.cons.inj hl).1
    | cons b front =>
      rw [up] at hl
      obtain rfl : s = b := by
        rw [lineage_cons s] at hl
        exact (List.cons.inj hl).1
      have plain : ∀ g ∈ s :: front, g.isFunctionLike = false := by
        intro g hg
        have := hfront g hg
        simp only [Bool.not_or, Bool.and_eq_true, Bool.not_eq_true'] at this
        exact this.2
      exact .inr ⟨⟨front, hl, fun g hg => plain g (List.mem_cons_of_mem _ hg)⟩,
        plain s (List.mem_cons_self ..)⟩
  · rintro (rfl | ⟨⟨between, hl, hb⟩, hsf⟩)
    · have self : s.same s = true := by simp [same]
      exact ⟨s, ⟨by simp [self], [], _, lineage_cons s, by simp⟩, self⟩
    · have self : f.same f = true := by simp [same]
      have hl' : s.lineage = (s :: between) ++ f.lineage := hl
      refine ⟨f, ⟨by simp [self], s :: between, (f.parent?.map lineage).getD [], ?_, ?_⟩, self⟩
      · rw [hl', ← lineage_cons]
      · intro g hg
        have below : g.same f = false := not_same_of_lineage_eq_append hl' g hg
        rcases List.mem_cons.1 hg with rfl | hg
        · simp [below, hsf]
        · simp [below, hb g hg]

end Site

end PropOrder
