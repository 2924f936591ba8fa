import Mathlib.Data.List.Nodup
import Mathlib.Logic.Relation
import PropOrder.Proofs.Assembly.Rules
import PropOrder.Proofs.Tree

/-!
# Linked programs

The objects of a converted program form a tree, and linking makes it one that can be walked up
(`build_linked`). The walk through the objects goes side by side with the walk through the sites of
the program (`trace`), so that it ends; an object that a site stands for is not met again for
another site, because nothing else refers to it (`Sound`).
-/

namespace PropOrder

namespace Assembly
variable {covered : Span → Prop} {σ : Store} {V : Ref → Node} {n : Node} {root : Ref}

/-! ### The walk through objects and sites -/

/-- The objects met from an object on, each with the site that it stands for. -/
def trace (σ : Store) (start : Ref × Site) : List (Ref × Site) :=
  start :: ((σ.children start.1).zip start.2.children).attach.flatMap fun c => trace σ c.1
termination_by sizeOf start.2.node
decreasing_by exact Site.sizeOf_lt_of_mem_children (List.of_mem_zip c.2).2

/-- The children of an object, each with the site that it stands for. -/
def steps (σ : Store) (p : Ref × Site) : List (Ref × Site) := (σ.children p.1).zip p.2.children

theorem trace_eq (σ : Store) (start : Ref × Site) :
    trace σ start = start :: (steps σ start).flatMap (trace σ) := by
  rw [trace, steps]
  simp [List.flatMap_subtype]

theorem sizeOf_lt_of_mem_steps {p c : Ref × Site} (h : c ∈ steps σ p) :
    sizeOf c.2.node < sizeOf p.2.node :=
  Site.sizeOf_lt_of_mem_children (List.of_mem_zip h).2

theorem mem_trace_iff {p start : Ref × Site} :
    p ∈ trace σ start ↔ p = start ∨ ∃ c ∈ steps σ start, p ∈ trace σ c := by
  rw [trace_eq, List.mem_cons, List.mem_flatMap]

/-- What is met from an object on is met in one piece. -/
theorem trace_sublist {p start : Ref × Site} (h : p ∈ trace σ start) :
    (trace σ p).Sublist (trace σ start) := by
  rcases mem_trace_iff.1 h with rfl | ⟨c, hc, h⟩
  · exact .refl _
  · rw [trace_eq σ start]
    exact ((trace_sublist h).trans (List.sublist_flatten_of_mem (List.mem_map_of_mem hc))).cons _
termination_by sizeOf start.2.node
decreasing_by exact sizeOf_lt_of_mem_steps hc

theorem mem_trace_of_mem_steps {p c start : Ref × Site} (hp : p ∈ trace σ start)
    (hc : c ∈ steps σ p) : c ∈ trace σ start :=
  (trace_sublist hp).subset (mem_trace_iff.2 (.inr ⟨c, hc, mem_trace_iff.2 (.inl rfl)⟩))

/-- What holds of the start and of the children of whatever is met holds of all that is met. -/
theorem trace_induction {start : Ref × Site} {P : Ref × Site → Prop} (first : P start)
    (step : ∀ p ∈ trace σ start, P p → ∀ c ∈ steps σ p, P c) : ∀ p ∈ trace σ start, P p := by
  intro p hp
  rcases mem_trace_iff.1 hp with rfl | ⟨c, hc, hp⟩
  · exact first
  · have below : ∀ q ∈ trace σ c, q ∈ trace σ start :=
      fun q hq => mem_trace_iff.2 (.inr ⟨c, hc, hq⟩)
    exact trace_induction (step start (mem_trace_iff.2 (.inl rfl)) first c hc)
      (fun q hq => step q (below q hq)) p hp
termination_by sizeOf start.2.node
decreasing_by exact sizeOf_lt_of_mem_steps hc

/-! ### Objects stand for sites -/

/-- An object that is kept, with the site that it stands for. -/
def Stands (σ : Store) (V : Ref → Node) (p : Ref × Site) : Prop :=
  p.1 < σ.length ∧ V p.1 = p.2.node

theorem map_children (shows : σ.Shows V) {r : Ref} (kept : r < σ.length) :
    (σ.children r).map V = (V r).children := by
  have hr := Store.content?_eq_some_iff.2 ⟨_, List.getElem?_eq_getElem kept, rfl, rfl⟩
  rw [shows r _ _ hr, Store.children_of_content? hr]
  exact (Fields.held_mapNodes V _).symm

theorem eq_of_mem_zip {α β γ : Type} {f : α → γ} {g : β → γ} {l : List α} {l' : List β}
    (h : l.map f = l'.map g) {c : α × β} (hc : c ∈ l.zip l') : f c.1 = g c.2 := by
  obtain ⟨i, hi, rfl⟩ := List.getElem_of_mem hc
  rw [List.getElem_zip]
  have same := congrArg (·[i]?) h
  rw [List.length_zip] at hi
  simpa [List.getElem?_eq_getElem (Nat.lt_of_lt_of_le hi (Nat.min_le_left ..)),
    List.getElem?_eq_getElem (Nat.lt_of_lt_of_le hi (Nat.min_le_right ..))] using same

section Sound
variable {held : Multiset Held} (sound : Sound covered σ V held)
include sound

theorem map_children_eq {p : Ref × Site} (hp : Stands σ V p) :
    (σ.children p.1).map V = p.2.children.map Site.node := by
  rw [map_children sound.shows hp.1, hp.2, Site.map_node_children]

theorem Stands.step {p c : Ref × Site} (hp : Stands σ V p) (hc : c ∈ steps σ p) :
    Stands σ V c := by
  have edge := Store.mem_edges_of_mem_children (List.of_mem_zip hc).1
  exact ⟨sound.kept _ (Multiset.mem_add.2 (.inl edge)),
    eq_of_mem_zip (map_children_eq sound hp) hc⟩

theorem map_fst_steps {p : Ref × Site} (hp : Stands σ V p) :
    (steps σ p).map Prod.fst = σ.children p.1 := by
  have length := congrArg List.length (map_children_eq sound hp)
  rw [List.length_map, List.length_map] at length
  exact List.map_fst_zip length.le

theorem map_snd_steps {p : Ref × Site} (hp : Stands σ V p) :
    (steps σ p).map Prod.snd = p.2.children := by
  have length := congrArg List.length (map_children_eq sound hp)
  rw [List.length_map, List.length_map] at length
  exact List.map_snd_zip length.ge

/-- The sites met are those of the walk. -/
theorem map_snd_trace {p : Ref × Site} (hp : Stands σ V p) :
    (trace σ p).map Prod.snd = p.2.walk := by
  rw [trace_eq, List.map_cons, Site.walk_eq, ← map_snd_steps sound hp, List.map_flatMap,
    List.flatMap_map]
  refine congrArg _ (List.flatMap_congr fun c hc => ?_)
  exact map_snd_trace (hp.step sound hc)
termination_by sizeOf p.2.node
decreasing_by exact sizeOf_lt_of_mem_steps hc

/-- The walk meets the objects in the order of their sites before it comes to what is left on the
stack. -/
theorem reaches_trace {p : Ref × Site} (hp : Stands σ V p) (met stack : List Ref) :
    StateTransition.Reaches (Store.turn σ.children) (met, p.1 :: stack)
      (met ++ (trace σ p).map Prod.fst, stack) := by
  have children : ∀ ps : List (Ref × Site), (∀ c ∈ ps, c ∈ steps σ p) → ∀ met : List Ref,
      StateTransition.Reaches (Store.turn σ.children) (met, ps.map Prod.fst ++ stack)
        (met ++ (ps.flatMap (trace σ)).map Prod.fst, stack) := by
    intro ps hps
    induction ps with
    | nil =>
      intro met
      rw [List.flatMap_nil, List.map_nil, List.append_nil, List.nil_append]
      exact .refl
    | cons c ps ih =>
      intro met
      have first := reaches_trace (hp.step sound (hps c (List.mem_cons_self ..))) met
        (ps.map Prod.fst ++ stack)
      have others := ih (fun d hd => hps d (List.mem_cons_of_mem _ hd))
        (met ++ (trace σ c).map Prod.fst)
      rw [List.append_assoc, ← List.map_append, ← List.flatMap_cons] at others
      exact first.trans others
  have turn : Store.turn σ.children (met, p.1 :: stack) =
      some (met ++ [p.1], (steps σ p).map Prod.fst ++ stack) := by
    rw [Store.turn, map_fst_steps sound hp]
  have others := children (steps σ p) (fun _ => id) (met ++ [p.1])
  rw [List.append_assoc, List.singleton_append, ← List.map_cons, ← trace_eq] at others
  exact .head turn others
termination_by sizeOf p.2.node
decreasing_by exact sizeOf_lt_of_mem_steps (hps c (List.mem_cons_self ..))

end Sound

/-! ### No object is met twice -/

theorem eq_or_mem_steps {p start : Ref × Site} (hp : p ∈ trace σ start) :
    p = start ∨ ∃ q ∈ trace σ start, p ∈ steps σ q := by
  refine trace_induction (P := fun p => p = start ∨ ∃ q ∈ trace σ start, p ∈ steps σ q)
    (.inl rfl) ?_ p hp
  intro q hq _ c hc
  exact .inr ⟨q, hq, hc⟩

theorem eq_of_mem_zip_of_nodup {α β : Type} {l : List α} {l' : List β} (once : l.Nodup)
    {c d : α × β} (hc : c ∈ l.zip l') (hd : d ∈ l.zip l') (h : c.1 = d.1) : c = d := by
  obtain ⟨i, hi, rfl⟩ := List.getElem_of_mem hc
  obtain ⟨j, hj, rfl⟩ := List.getElem_of_mem hd
  rw [List.getElem_zip, List.getElem_zip] at h
  obtain rfl := (once.getElem_inj_iff).1 h
  rfl

section Root
variable (sound : Sound covered σ V {(root, n)})
include sound

theorem once_edges : σ.edges.Nodup := (Multiset.nodup_add.1 sound.once).1

theorem root_not_mem_edges : root ∉ σ.edges := by
  have apart := (Multiset.nodup_add.1 sound.once).2.2
  exact fun h => Multiset.disjoint_left.1 apart h (by simp)

theorem ne_root_of_mem_steps {p c : Ref × Site} (hc : c ∈ steps σ p) : c.1 ≠ root := by
  rintro rfl
  exact root_not_mem_edges sound (Store.mem_edges_of_mem_children (List.of_mem_zip hc).1)

theorem stands_root : Stands σ V (root, Site.root n) :=
  ⟨sound.lt_of_mem (Multiset.mem_singleton_self _), sound.stands _ (Multiset.mem_singleton_self _)⟩

theorem stands_of_mem_trace : ∀ p ∈ trace σ (root, Site.root n), Stands σ V p :=
  trace_induction (stands_root sound) fun _ _ hp _ hc => hp.step sound hc

/-- An object is met for one site only. -/
theorem eq_of_mem_trace {p q : Ref × Site} (hp : p ∈ trace σ (root, Site.root n))
    (hq : q ∈ trace σ (root, Site.root n)) (same : p.1 = q.1) : p = q := by
  -- the root is not a child, and any other object is a child of one object, in one place
  refine trace_induction (P := fun p => ∀ q ∈ trace σ (root, Site.root n), p.1 = q.1 → p = q)
    ?_ ?_ p hp q hq same
  · intro q hq same
    rcases eq_or_mem_steps hq with rfl | ⟨q', -, hqq'⟩
    · rfl
    · exact absurd same.symm (ne_root_of_mem_steps sound hqq')
  · intro p hp ih c hc q hq same
    have child := (List.of_mem_zip hc).1
    rcases eq_or_mem_steps hq with rfl | ⟨q', hq', hqq'⟩
    · exact absurd same (ne_root_of_mem_steps sound hc)
    · have child' : c.1 ∈ σ.children q'.1 := same ▸ (List.of_mem_zip hqq').1
      obtain rfl := ih q' hq' (Store.eq_of_mem_children (once_edges sound) child child')
      exact eq_of_mem_zip_of_nodup (Store.nodup_children (once_edges sound) _) hc hqq' same

theorem nodup_sites : ((trace σ (root, Site.root n)).map Prod.snd).Nodup := by
  rw [map_snd_trace sound (stands_root sound)]
  exact Site.nodup_walk _

theorem nodup_objects : ((trace σ (root, Site.root n)).map Prod.fst).Nodup :=
  (nodup_sites sound).of_map.map_on fun _ hp _ hq => eq_of_mem_trace sound hp hq

end Root

/-! ### Linking -/

/-- An object that is reached from another one by going from parents to children. -/
def Under (σ : Store) (root r : Ref) : Prop :=
  Relation.ReflTransGen (fun p c => c ∈ σ.children p) root r

/-- A store in which the objects under a root form a tree whose parents are set, given with the
walk from the root. -/
structure Linked (σ : Store) (root : Ref) (walk : List Ref) : Prop where
  /-- The walk from the root ends, -/
  walks : σ.walk root = .some walk
  /-- it meets the objects under the root and no others, -/
  meets : ∀ r, r ∈ walk ↔ Under σ root r
  /-- and meets each of them once. -/
  once : walk.Nodup
  /-- One object is the parent of another exactly if that is one of its children, -/
  parent_iff : ∀ p ∈ walk, ∀ c ∈ walk, σ.parent? c = some p ↔ c ∈ σ.children p
  /-- and it is among them once. -/
  single : ∀ p ∈ walk, (σ.children p).Nodup
  /-- Only the root has no parent. -/
  orphan_iff : ∀ c ∈ walk, σ.parent? c = none ↔ c = root
  /-- A parent is met before its children. -/
  earlier : ∀ p ∈ walk, ∀ c ∈ walk, σ.parent? c = some p → walk.idxOf p < walk.idxOf c
  /-- The way up from an object leads to the root. -/
  reaches : ∀ c ∈ walk, ∃ k : ℕ, (fun o => o.bind σ.parent?)^[k] (some c) = some root

theorem idxOf_lt_of_sublist {l : List Ref} {p c : Ref} (once : l.Nodup) (h : [p, c].Sublist l) :
    l.idxOf p < l.idxOf c := by
  obtain ⟨l₁, l₂, rfl, hp, hc⟩ := List.cons_sublist_iff.1 h
  have apart := (List.nodup_append'.1 once).2.2
  have behind : c ∉ l₁ := fun hc' => apart hc' (List.singleton_sublist.1 hc)
  rw [List.idxOf_append_of_mem hp, List.idxOf_append_of_notMem behind]
  exact Nat.lt_of_lt_of_le (List.idxOf_lt_length_iff.2 hp) (Nat.le_add_right ..)

/-- The objects met on the walk from the root. -/
def met (σ : Store) (root : Ref) (n : Node) : List Ref :=
  (trace σ (root, Site.root n)).map Prod.fst

/-- The store after all objects met on the walk from the root have adopted their children. -/
def linked (σ : Store) (root : Ref) (n : Node) : Store :=
  (met σ root n).foldl Store.adopt (σ.setParent none root)

theorem content?_linked (σ : Store) (root : Ref) (n : Node) :
    (linked σ root n).content? = σ.content? := by
  rw [linked, Store.content?_foldl Store.content?_adopt, Store.content?_setParent]

theorem eq_or_mem_children {c : Ref} (hc : c ∈ met σ root n) :
    c = root ∨ ∃ p ∈ met σ root n, c ∈ σ.children p := by
  obtain ⟨d, hd, rfl⟩ := List.mem_map.1 hc
  rcases eq_or_mem_steps hd with rfl | ⟨q, hq, hdq⟩
  · exact .inl rfl
  · exact .inr ⟨q.1, List.mem_map_of_mem hq, (List.of_mem_zip hdq).1⟩

section Root
variable (sound : Sound covered σ V {(root, n)})
include sound

theorem walk_eq {τ : Store} (same : τ.content? = σ.content?) :
    τ.walk root = .some (met σ root n) := by
  have reaches := reaches_trace sound (stands_root sound) [] []
  rw [List.nil_append] at reaches
  rw [Store.walk, Store.children_congr same, Part.eq_some_iff]
  exact Part.mem_map Prod.fst (StateTransition.mem_eval.2 ⟨reaches, rfl⟩)

theorem link_eq : σ.link root = .some (linked σ root n) := by
  rw [Store.link, walk_eq sound (Store.content?_setParent σ none root), Part.map_some]
  rfl

theorem kept_of_mem_met {r : Ref} (hr : r ∈ met σ root n) : (σ.content? r).isSome := by
  obtain ⟨p, hp, rfl⟩ := List.mem_map.1 hr
  have kept := (stands_of_mem_trace sound p hp).1
  rw [Store.content?_eq_some_iff.2 ⟨_, List.getElem?_eq_getElem kept, rfl, rfl⟩]
  rfl

/-- The children of what is met are met, each behind its parent. -/
theorem sublist_met {p c : Ref} (hp : p ∈ met σ root n) (hc : c ∈ σ.children p) :
    [p, c].Sublist (met σ root n) := by
  obtain ⟨q, hq, rfl⟩ := List.mem_map.1 hp
  rw [← map_fst_steps sound (stands_of_mem_trace sound q hq)] at hc
  obtain ⟨d, hd, rfl⟩ := List.mem_map.1 hc
  have below : [q, d].Sublist (trace σ q) := by
    rw [trace_eq, List.cons_sublist_cons, List.singleton_sublist]
    exact List.mem_flatMap.2 ⟨d, hd, mem_trace_iff.2 (.inl rfl)⟩
  exact (below.trans (trace_sublist hq)).map Prod.fst

theorem parent?_linked_root : (linked σ root n).parent? root = none := by
  have kept := kept_of_mem_met sound (List.mem_map_of_mem (mem_trace_iff.2 (.inl rfl)))
  have kept' : ((σ.setParent none root).content? root).isSome := by
    rwa [Store.content?_setParent]
  have free : ∀ p, root ∉ (σ.setParent none root).children p := by
    intro p hp
    rw [Store.children_congr (Store.content?_setParent σ none root)] at hp
    exact root_not_mem_edges sound (Store.mem_edges_of_mem_children hp)
  rw [linked, Store.parent?_foldl_adopt (p := root) kept' fun r _ hr => absurd hr (free r),
    if_neg fun h => free root h.2, Store.parent?_setParent_self kept]

theorem mem_met_of_mem_children {p c : Ref} (hp : p ∈ met σ root n) (hc : c ∈ σ.children p) :
    c ∈ met σ root n :=
  (sublist_met sound hp hc).subset (List.mem_cons_of_mem _ (List.mem_singleton_self c))

theorem parent?_linked_child {p c : Ref} (hp : p ∈ met σ root n) (hc : c ∈ σ.children p) :
    (linked σ root n).parent? c = some p := by
  have same := Store.content?_setParent σ none root
  have kept := kept_of_mem_met sound (mem_met_of_mem_children sound hp hc)
  have kept' : ((σ.setParent none root).content? c).isSome := by rwa [same]
  have children := Store.children_congr same
  rw [linked, Store.parent?_foldl_adopt (p := p) kept' fun r _ hr =>
    Store.eq_of_mem_children (once_edges sound) (by rwa [children] at hr) hc, children,
    if_pos ⟨hp, hc⟩]

/-- What has a parent is one of its children. -/
theorem mem_children_of_parent? {p c : Ref} (hc : c ∈ met σ root n)
    (h : (linked σ root n).parent? c = some p) : p ∈ met σ root n ∧ c ∈ σ.children p := by
  rcases eq_or_mem_children hc with rfl | ⟨q, hq, hcq⟩
  · rw [parent?_linked_root sound] at h
    cases h
  · rw [parent?_linked_child sound hq hcq] at h
    obtain rfl := Option.some.inj h
    exact ⟨hq, hcq⟩

theorem mem_met_iff (r : Ref) : r ∈ met σ root n ↔ Under σ root r := by
  constructor
  · intro hr
    obtain ⟨p, hp, rfl⟩ := List.mem_map.1 hr
    have start : Under σ root root := Relation.ReflTransGen.refl
    refine trace_induction (P := fun p => Under σ root p.1) start ?_ p hp
    intro p _ below c hc
    exact Relation.ReflTransGen.tail below (List.of_mem_zip hc).1
  · intro below
    induction below with
    | refl => exact List.mem_map_of_mem (mem_trace_iff.2 (.inl rfl))
    | tail _ hc ih => exact mem_met_of_mem_children sound ih hc

theorem reaches_root {c : Ref} (hc : c ∈ met σ root n) :
    ∃ k : ℕ, (fun o => o.bind (linked σ root n).parent?)^[k] (some c) = some root := by
  induction (mem_met_iff sound c).1 hc with
  | refl => exact ⟨0, rfl⟩
  | @tail p c below child ih =>
    have hp := (mem_met_iff sound p).2 below
    obtain ⟨k, hk⟩ := ih hp
    refine ⟨k + 1, ?_⟩
    rw [Function.iterate_succ_apply, Option.bind_some, parent?_linked_child sound hp child, hk]

/-- Linking a sound store with a hand on the root makes the objects under the root a tree whose
parents are set. -/
theorem linked_linked : Linked (linked σ root n) root (met σ root n) := by
  have children := Store.children_congr (content?_linked σ root n)
  constructor
  · exact walk_eq sound (content?_linked σ root n)
  · intro r
    rw [mem_met_iff sound, Under, Under, children]
  · exact nodup_objects sound
  · intro p hp c hc
    rw [children]
    exact ⟨fun h => (mem_children_of_parent? sound hc h).2, parent?_linked_child sound hp⟩
  · intro p _
    rw [children]
    exact Store.nodup_children (once_edges sound) p
  · intro c hc
    constructor
    · intro none
      rcases eq_or_mem_children hc with rfl | ⟨p, hp, child⟩
      · rfl
      · rw [parent?_linked_child sound hp child] at none
        cases none
    · rintro rfl
      exact parent?_linked_root sound
  · intro p hp c hc h
    have child := (mem_children_of_parent? sound hc h).2
    exact idxOf_lt_of_sublist (nodup_objects sound) (sublist_met sound hp child)
  · exact fun c hc => reaches_root sound hc

/-- The objects met stand for the nodes of the sites of the program. -/
theorem map_met : (met σ root n).map V = (Site.root n).walk.map Site.node := by
  rw [← map_snd_trace sound (stands_root sound), met, List.map_map, List.map_map]
  exact List.map_congr_left fun p hp => (stands_of_mem_trace sound p hp).2

/-- Every site of the program covers a span that some object covers. -/
theorem covered_of_mem_walk {s : Site} (hs : s ∈ (Site.root n).walk) : covered s.span := by
  rw [← map_snd_trace sound (stands_root sound)] at hs
  obtain ⟨p, hp, rfl⟩ := List.mem_map.1 hs
  obtain ⟨kept, stands⟩ := stands_of_mem_trace sound p hp
  have hr := Store.content?_eq_some_iff.2 ⟨_, List.getElem?_eq_getElem kept, rfl, rfl⟩
  have covers := sound.covered _ (List.getElem_mem kept)
  rwa [Site.span, ← stands, sound.shows _ _ _ hr]

/-- Every site has an object of its own. -/
theorem exists_object : ∃ object : Site → Ref,
    ∀ p ∈ trace σ (root, Site.root n), object p.2 = p.1 := by
  classical
  refine ⟨fun s => if h : ∃ r, (r, s) ∈ trace σ (root, Site.root n) then h.choose else 0,
    fun p hp => ?_⟩
  have h : ∃ r, (r, p.2) ∈ trace σ (root, Site.root n) := ⟨p.1, hp⟩
  simp only [dif_pos h]
  exact congrArg Prod.fst (List.inj_on_of_nodup_map (nodup_sites sound) h.choose_spec hp rfl)

end Root

theorem build_eq {source : SourceText} {tree : Concrete}
    (run : (assemble source tree).run [] = .ok (root, σ)) (sound : Sound covered σ V {(root, n)}) :
    build source tree = .some (.ok (root, linked σ root n)) := by
  simp only [build, run, link_eq sound, Part.map_some]

/-- **The objects of a converted program form a tree. Whenever a concrete tree converts, its objects
are made and linked, they stand for the nodes of the program in the order of the walk, each is met
once and held by its parent alone, and the way up from each leads to the root.** -/
theorem build_linked {source : SourceText} {tree : Concrete} {n : Node}
    (converts : Conversion.convert source tree = .ok n) :
    ∃ root σ walk, build source tree = .some (.ok (root, σ)) ∧ Linked σ root walk ∧
      ∃ V, σ.Shows V ∧ V root = n ∧ walk.map V = (Site.root n).walk.map Site.node := by
  obtain ⟨root, σ, V, run, sound⟩ := sound_assemble converts
  have shows : (linked σ root n).Shows V := by
    rw [Store.Shows, content?_linked]
    exact sound.shows
  exact ⟨root, linked σ root n, met σ root n, build_eq run sound, linked_linked sound, V, shows,
    sound.stands _ (Multiset.mem_singleton_self _), map_met sound⟩

/-- Every site of a converted program covers what some concrete node covers. -/
theorem coveredBy_of_mem_walk {source : SourceText} {tree : Concrete} {n : Node}
    (converts : Conversion.convert source tree = .ok n) {s : Site}
    (hs : s ∈ (Site.root n).walk) : CoveredBy tree s.span := by
  obtain ⟨root, σ, V, -, sound⟩ := sound_assemble converts
  exact covered_of_mem_walk sound hs

/-- The sites of a converted program are its objects: they have the same children and the same
parents. -/
theorem sites_eq_objects {source : SourceText} {tree : Concrete} {n : Node}
    (converts : Conversion.convert source tree = .ok n) :
    ∃ (root : Ref) (σ : Store) (object : Site → Ref), build source tree = .some (.ok (root, σ)) ∧
      σ.walk root = .some ((Site.root n).walk.map object) ∧
      ∀ s ∈ (Site.root n).walk, σ.children (object s) = s.children.map object ∧
        σ.parent? (object s) = s.parent?.map object := by
  obtain ⟨root, σ, V, run, sound⟩ := sound_assemble converts
  obtain ⟨object, isObject⟩ := exists_object sound
  have same := content?_linked σ root n
  have children := Store.children_congr same
  have walk := map_snd_trace sound (stands_root sound)
  refine ⟨root, linked σ root n, object, build_eq run sound, ?_, fun s hs => ⟨?_, ?_⟩⟩
  · rw [walk_eq sound same, ← walk, met, List.map_map]
    exact congrArg Part.some (List.map_congr_left fun p hp => (isObject p hp).symm)
  · rw [← walk] at hs
    obtain ⟨p, hp, rfl⟩ := List.mem_map.1 hs
    have stands := stands_of_mem_trace sound p hp
    rw [children, isObject p hp, ← map_fst_steps sound stands, ← map_snd_steps sound stands,
      List.map_map]
    exact List.map_congr_left fun c hc =>
      (isObject c (mem_trace_of_mem_steps hp hc)).symm
  · rw [← walk] at hs
    obtain ⟨c, hc, rfl⟩ := List.mem_map.1 hs
    rw [isObject c hc]
    rcases eq_or_mem_steps hc with rfl | ⟨p, hp, step⟩
    · exact parent?_linked_root sound
    · have site := Site.parent?_of_mem_children (List.of_mem_zip step).2
      rw [site, Option.map_some, isObject p hp]
      exact parent?_linked_child sound (List.mem_map_of_mem hp) (List.of_mem_zip step).1

/-- The concrete tree of the source `(a: T) => ({a})`. -/
def typedArrowTree : Concrete :=
  .mk ⟨true, "program", "", ⟨0, 15⟩⟩ [
    .mk ⟨true, "expression_statement", "", ⟨0, 15⟩⟩ [
      .mk ⟨true, "arrow_function", "", ⟨0, 15⟩⟩ [
        .mk ⟨true, "formal_parameters", "parameters", ⟨0, 6⟩⟩ [
          .mk ⟨true, "required_parameter", "", ⟨1, 5⟩⟩ [
            .mk ⟨true, "identifier", "pattern", ⟨1, 2⟩⟩ [],
            .mk ⟨true, "type_annotation", "type", ⟨2, 5⟩⟩ [
              .mk ⟨true, "type_identifier", "", ⟨4, 5⟩⟩ []]]],
        .mk ⟨true, "parenthesized_expression", "body", ⟨10, 15⟩⟩ [
          .mk ⟨true, "object", "", ⟨11, 14⟩⟩ [
            .mk ⟨true, "shorthand_property_identifier", "", ⟨12, 13⟩⟩ []]]]]]

/-- The annotation is held by the pattern, and the name in braces is made into a key and a value. -/
theorem typedArrowTree_linked : ∃ root σ walk,
    build (.ofString "(a: T) => ({a})") typedArrowTree = .some (.ok (root, σ)) ∧
      Linked σ root walk ∧ walk.length = 11 := by
  have size : (Conversion.convert (.ofString "(a: T) => ({a})") typedArrowTree).toOption.map
      (fun n => (Site.root n).walk.length) = some 11 := by
    decide +kernel
  obtain ⟨n, converts⟩ : ∃ n,
    Conversion.convert (.ofString "(a: T) => ({a})") typedArrowTree = .ok n := ⟨_, rfl⟩
  obtain ⟨root, σ, walk, built, linked, V, -, -, shown⟩ := build_linked converts
  refine ⟨root, σ, walk, built, linked, ?_⟩
  have length := congrArg List.length shown
  rw [List.length_map, List.length_map] at length
  rw [converts] at size
  exact length.trans (Option.some.inj size)

end Assembly

end PropOrder
