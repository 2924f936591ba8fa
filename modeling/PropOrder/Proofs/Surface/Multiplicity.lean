import Mathlib.Algebra.BigOperators.Group.List.Basic
import Mathlib.Algebra.Ring.Nat
import PropOrder.Proofs.Surface.Boundary

/-!
# How often a return is on the return surface

The return surface of a function with a body in braces lists a return once for every way in which a
candidate leads to it. `climb?` is following a statement read upwards, and the path of a return
goes up as far as it leads. A candidate leads to the return exactly if it is on the path
(`count_follow`), and each site of the path is a candidate as often as `entrances` says
(`count_allGiven`); the sum over the path is what `count_returnSurface` gives.
-/

namespace PropOrder

/-! ### Sums over lists -/

section Sums
variable {α : Type} [DecidableEq α] {l : List α} {x : α} {g : α → ℕ}

/-- Counting the items of one list in another gives the same sum both ways. -/
theorem sum_map_count (l l' : List α) :
    (l.map fun a => l'.count a).sum = (l'.map fun b => l.count b).sum := by
  induction l' with
  | nil => simp
  | cons b l' ih =>
    have single : (l.map fun a => if b = a then 1 else 0).sum = l.count b := by
      clear ih
      induction l with
      | nil => rfl
      | cons a l ih =>
        rw [List.map_cons, List.sum_cons, ih, List.count_cons, add_comm]
        simp only [beq_iff_eq, eq_comm (a := a)]
    simp only [List.count_cons, beq_iff_eq, List.sum_map_add, ih, single, List.map_cons,
      List.sum_cons]
    omega

/-- A sum over a list without repetition that one item alone contributes to. -/
theorem sum_map_eq_of_mem (hl : l.Nodup) (hx : x ∈ l) (others : ∀ b ∈ l, b ≠ x → g b = 0) :
    (l.map g).sum = g x := by
  rw [List.sum_map_eq_nsmul_single x g fun b hb hm => others b hm hb,
    List.count_eq_one_of_mem hl hx, one_nsmul]

theorem count_eq_ite (hl : l.Nodup) (x : α) : l.count x = if x ∈ l then 1 else 0 := by
  split
  · next hx => exact List.count_eq_one_of_mem hl hx
  · next hx => exact List.count_eq_zero_of_not_mem hx

theorem ite_count_eq_toNat (hl : l.Nodup) {P : Prop} [Decidable P] {b : Bool}
    (hb : b = true ↔ P ∧ x ∈ l) : (if P then l.count x else 0) = b.toNat := by
  rw [count_eq_ite hl, ← ite_and]
  cases b with
  | true => rw [if_pos (hb.1 rfl)]; rfl
  | false => rw [if_neg fun h => Bool.false_ne_true (hb.2 h)]; rfl

end Sums

namespace Site
variable {source : SourceText} {n : Node} {f r s c p body : Site} {name : String}

/-! ### The path of a return -/

/-- Whether a site is held by a field of another. -/
def isIn (s p : Site) (name : String) : Bool := (p.get name).nodeList.any (·.same s)

/-- The statement that a statement is reached from: the parent, of which it is an unbraced branch or
an unbraced body, or the choice between cases in one of which it stands. -/
def climb? (s : Site) : Option Site :=
  s.parent?.bind fun p =>
    if p.isChoice then
      if !s.isBlock && (s.isIn p "consequent" || s.isIn p "alternate") then some p else none
    else if p.isLoop then
      if !s.isBlock && s.isIn p "body" then some p else none
    else if p.kind == "SwitchCase" && s.isIn p "consequent" then
      p.parent?.filter fun q => q.kind == "SwitchStatement" && p.isIn q "cases"
    else none

theorem length_lt_of_parent? (h : s.parent? = some p) : p.crumbs.length < s.crumbs.length := by
  obtain ⟨n, _ | ⟨c, crumbs⟩⟩ := s
  · cases h
  · obtain rfl := Option.some.inj h
    exact Nat.lt_succ_self _

theorem length_lt_of_climb? (h : s.climb? = some c) : c.crumbs.length < s.crumbs.length := by
  obtain ⟨p, hp, h⟩ := Option.bind_eq_some_iff.1 h
  have hlt := length_lt_of_parent? hp
  split_ifs at h
  · obtain rfl := Option.some.inj h
    exact hlt
  · obtain rfl := Option.some.inj h
    exact hlt
  · exact (length_lt_of_parent? (Option.filter_eq_some_iff.1 h).1).trans hlt

/-- The path of a statement: itself, the statement it is reached from, and so on. -/
def path (s : Site) : List Site :=
  s :: match _h : s.climb? with
    | none => []
    | some c => path c
termination_by s.crumbs.length
decreasing_by exact length_lt_of_climb? _h

theorem path_of_climb?_eq_none (h : s.climb? = none) : s.path = [s] := by
  rw [path]
  split
  · rfl
  · next h' => rw [h] at h'; cases h'

theorem path_of_climb?_eq_some (h : s.climb? = some c) : s.path = s :: c.path := by
  rw [path]
  split
  · next h' => rw [h] at h'; cases h'
  · next h' =>
    rw [h] at h'
    obtain rfl := Option.some.inj h'
    rfl

/-- How often a statement is a candidate of a function: once as a choice between cases; once as the
unbraced body of a loop that declares a variable of its own; once as an item of a block other than
the body of the function; and once as an item of that, if it is no choice between cases. -/
def entrances (f s : Site) : ℕ :=
  (s.kind == "SwitchStatement").toNat +
  (s.parent?.any fun p => p.isScopedLoop && !s.isBlock && s.isIn p "body").toNat +
  (s.parent?.any fun p => p.isBlock && s.isIn p "body" && !(f.get "body").isSite p).toNat +
  (s.parent?.any fun p => p.isBlock && s.isIn p "body" && (f.get "body").isSite p &&
    s.kind != "SwitchStatement").toNat

/-! ### Climbing and following -/

theorem isIn_iff (hs : s ∈ (root n).walk) (hp : p ∈ (root n).walk) :
    s.isIn p name = true ↔ s ∈ (p.get name).nodeList := by
  rw [isIn, List.any_eq_true]
  constructor
  · rintro ⟨c, hc, same⟩
    have mem := mem_walk_of_mem_children hp (mem_of_get_nodeList hc)
    rwa [(same_iff mem hs).1 same] at hc
  · intro h
    exact ⟨s, h, (same_iff hs hs).2 rfl⟩

theorem mem_unbraced : c ∈ s.unbraced name ↔ c ∈ (s.get name).nodeList ∧ c.isBlock = false := by
  rw [unbraced, List.mem_filter, Bool.not_eq_true']

theorem mem_next_of_climb? (hs : s ∈ (root n).walk) (hc : c ∈ (root n).walk)
    (h : s.climb? = some c) : s ∈ c.next := by
  obtain ⟨p, hp, h⟩ := Option.bind_eq_some_iff.1 h
  have hpw := (mem_children_of_parent? hs hp).1
  split_ifs at h with choice branch loop unbraced case
  · obtain rfl := Option.some.inj h
    rw [Bool.and_eq_true, Bool.or_eq_true, isIn_iff hs hpw, isIn_iff hs hpw,
      Bool.not_eq_true'] at branch
    rw [next, if_pos choice, List.mem_append, mem_unbraced, mem_unbraced]
    tauto
  · obtain rfl := Option.some.inj h
    rw [Bool.and_eq_true, isIn_iff hs hpw] at unbraced
    rw [next, if_neg choice, if_pos loop, mem_unbraced]
    simpa [and_comm] using unbraced
  · rw [Bool.and_eq_true, isIn_iff hs hpw] at case
    obtain ⟨hq, switch⟩ := Option.filter_eq_some_iff.1 h
    rw [Bool.and_eq_true, isIn_iff hpw hc, beq_iff_eq] at switch
    have plain : c.isChoice = false ∧ c.isLoop = false := by
      simp [isChoice, isLoop, switch.1]
    simp only [next, plain, switch.1, Bool.false_eq_true, if_false, beq_self_eq_true, if_true]
    exact List.mem_flatMap.2 ⟨p, switch.2, case.2⟩

theorem climb?_of_mem_next (wf : n.WellFormed source) (hs : s ∈ (root n).walk)
    (hc : c ∈ (root n).walk) (h : s ∈ c.next) : s.climb? = some c := by
  unfold next at h
  rw [climb?]
  split_ifs at h with choice loop switch
  · have branch : s.isBlock = false ∧
        (s ∈ (c.get "consequent").nodeList ∨ s ∈ (c.get "alternate").nodeList) := by
      rw [List.mem_append, mem_unbraced, mem_unbraced] at h
      tauto
    have child : s ∈ c.children := branch.2.elim mem_of_get_nodeList mem_of_get_nodeList
    rw [← isIn_iff hs hc, ← isIn_iff hs hc, ← Bool.or_eq_true] at branch
    simp only [parent?_of_mem_children child, Option.bind_some, choice, branch.1, branch.2,
      if_true, Bool.not_false, Bool.and_self]
  · obtain ⟨hb, block⟩ := mem_unbraced.1 h
    have hin := (isIn_iff hs hc).2 hb
    simp [parent?_of_mem_children (mem_of_get_nodeList hb), choice, loop, block, hin]
  · obtain ⟨case, hcase, h⟩ := List.mem_flatMap.1 h
    have child := mem_of_get_nodeList hcase
    have wfc := wellFormed_of_mem_walk (r := root n) wf c hc
    have kind := kind_of_mem_cases wfc (eq_of_beq switch) hcase
    have hw := mem_walk_of_mem_children hc child
    -- a case is left upwards, to the choice that it belongs to
    have plain : case.isChoice = false ∧ case.isLoop = false := by
      simp [isChoice, isLoop, kind]
    have hin := (isIn_iff hs hw).2 h
    have hin' := (isIn_iff hw hc).2 hcase
    simp [parent?_of_mem_children (mem_of_get_nodeList h), parent?_of_mem_children child, plain,
      kind, hin, hin', eq_of_beq switch]
  · cases h

/-- A statement is reached from those that are followed to it. -/
theorem climb?_eq_some_iff (wf : n.WellFormed source) (hs : s ∈ (root n).walk)
    (hc : c ∈ (root n).walk) : s.climb? = some c ↔ s ∈ c.next :=
  ⟨mem_next_of_climb? hs hc, climb?_of_mem_next wf hs hc⟩

theorem climb?_mem_walk (hs : s ∈ (root n).walk) (h : s.climb? = some c) :
    c ∈ (root n).walk := by
  obtain ⟨p, hp, h⟩ := Option.bind_eq_some_iff.1 h
  have hpw := (mem_children_of_parent? hs hp).1
  split_ifs at h
  · obtain rfl := Option.some.inj h
    exact hpw
  · obtain rfl := Option.some.inj h
    exact hpw
  · exact (mem_children_of_parent? hpw (Option.filter_eq_some_iff.1 h).1).1

theorem nodup_unbraced (s : Site) (name : String) : (s.unbraced name).Nodup :=
  (nodup_get s name).filter _

/-- No statement is followed to another one twice. -/
theorem nodup_next (s : Site) : s.next.Nodup := by
  unfold next
  split_ifs
  · refine List.nodup_append.2 ⟨nodup_unbraced s _, nodup_unbraced s _, ?_⟩
    rintro c hc _ hd rfl
    have fields : "consequent" = "alternate" :=
      eq_of_mem_get (mem_get_of_mem_unbraced hc) (mem_get_of_mem_unbraced hd)
    simp at fields
  · exact nodup_unbraced s _
  · refine List.nodup_flatMap.2 ⟨fun case _ => nodup_get case _, ?_⟩
    refine (nodup_get s "cases").imp fun {a b} hab c hc hd => hab ?_
    -- an item of two cases would have both of them as its parent
    have up := (parent?_of_mem_children (mem_of_get_nodeList hc)).symm.trans
      (parent?_of_mem_children (mem_of_get_nodeList hd))
    exact Option.some.inj up
  · exact List.nodup_nil

/-! ### What leads to a return -/

/-- Whether a site is a statement that is followed to others. -/
def isFollowed (s : Site) : Bool := s.isChoice || s.isLoop || s.kind == "SwitchStatement"

theorem isFollowed_of_climb? (h : s.climb? = some c) : c.isFollowed = true := by
  obtain ⟨p, hp, h⟩ := Option.bind_eq_some_iff.1 h
  split_ifs at h with choice branch loop unbraced case
  · obtain rfl := Option.some.inj h
    simp [isFollowed, choice]
  · obtain rfl := Option.some.inj h
    simp [isFollowed, loop]
  · obtain ⟨-, switch⟩ := Option.filter_eq_some_iff.1 h
    rw [Bool.and_eq_true] at switch
    simp [isFollowed, switch.1]

theorem isFollowed_iff : s.isFollowed = true ↔ s.kind = "IfStatement" ∨
    s.kind = "WhileStatement" ∨ s.kind = "DoWhileStatement" ∨ s.kind = "ForStatement" ∨
    s.kind = "ForInStatement" ∨ s.kind = "ForOfStatement" ∨ s.kind = "SwitchStatement" := by
  simp [isFollowed, isLoop, isChoice, or_assoc]

/-- A property that a statement shares with the one it is reached from holds on its whole path. -/
theorem path_induction {P : Site → Prop} {s : Site} (start : P s)
    (step : ∀ t c, P t → t.climb? = some c → P c) : ∀ t ∈ s.path, P t := by
  intro t ht
  cases h : s.climb? with
  | none =>
    rw [path_of_climb?_eq_none h, List.mem_singleton] at ht
    rwa [ht]
  | some c =>
    rw [path_of_climb?_eq_some h] at ht
    rcases List.mem_cons.1 ht with rfl | ht
    · exact start
    · exact path_induction (step s c start h) step t ht
termination_by s.crumbs.length
decreasing_by exact length_lt_of_climb? h

/-- Whatever comes after a statement on its path is followed to others. -/
theorem isFollowed_of_mem_tail_path (ht : c ∈ s.path.tail) : c.isFollowed = true := by
  cases h : s.climb? with
  | none =>
    rw [path_of_climb?_eq_none h] at ht
    cases ht
  | some p =>
    rw [path_of_climb?_eq_some h, List.tail_cons] at ht
    exact path_induction (P := fun t => t.isFollowed = true) (isFollowed_of_climb? h)
      (fun _ _ _ hc => isFollowed_of_climb? hc) c ht

open Classical in
theorem count_path (r c : Site) :
    r.path.count c = r.path.tail.count c + if r = c then 1 else 0 := by
  cases h : r.climb? with
  | none => simp [path_of_climb?_eq_none h, List.count_cons]
  | some q => simp [path_of_climb?_eq_some h, List.count_cons]

open Classical in
/-- The statements that a statement is followed to are on a path as often as the statement itself
comes after the start of the path. -/
theorem sum_count_next {r : Site} (wf : n.WellFormed source) (hr : r ∈ (root n).walk)
    (hc : c ∈ (root n).walk) : (c.next.map fun d => r.path.count d).sum = r.path.tail.count c := by
  rw [sum_map_count]
  -- by induction along the path, from the start of which both sides lose the same
  cases h : r.climb? with
  | none =>
    have apart : r ∉ c.next := fun mem => by
      rw [climb?_of_mem_next wf hr hc mem] at h
      cases h
    rw [path_of_climb?_eq_none h]
    simp [List.count_eq_zero_of_not_mem apart]
  | some p =>
    have hp := climb?_mem_walk hr h
    have ih := sum_count_next wf hp hc
    rw [sum_map_count] at ih
    have first : c.next.count r = if p = c then 1 else 0 := by
      simp only [count_eq_ite (nodup_next c), ← climb?_eq_some_iff wf hr hc, h,
        Option.some.injEq]
    rw [path_of_climb?_eq_some h, List.map_cons, List.sum_cons, ih, first, List.tail_cons,
      count_path p c, add_comm]
termination_by r.crumbs.length
decreasing_by exact length_lt_of_climb? h

open Classical in
/-- A candidate leads to a return as often as the candidate is on the path of the return. -/
theorem count_follow {c : Site} (wf : n.WellFormed source) (hb : f.get "body" = .node body)
    (hbw : body ∈ (root n).walk) (block : body.isBlock = true) (hf : f ∈ (root n).walk)
    (hr : r ∈ (root n).walk) (returns : r.kind = "ReturnStatement") (under : r.DirectlyUnder f)
    (parent : ∀ p ∈ r.parent?, p.kind ≠ "ExpressionStatement") (hc : c ∈ (root n).walk) :
    (f.follow c).count r = r.path.count c := by
  have closed := isConciseBody_eq_false hb block hbw hc
  have ih : ∀ d ∈ c.next, (f.follow d).count r = r.path.count d := fun d hd =>
    count_follow wf hb hbw block hf hr returns under parent (mem_walk_of_mem_next hc hd)
  have tail : c.isFollowed = false → r.path.tail.count c = 0 := by
    intro plain
    refine List.count_eq_zero_of_not_mem fun mem => ?_
    rw [isFollowed_of_mem_tail_path mem] at plain
    cases plain
  rw [follow_eq, closed, if_neg Bool.false_ne_true, count_path]
  -- a return and a function lead to themselves at most
  by_cases leaves : (c.isReturn || c.isFunctionLike) = true
  · rw [if_pos leaves]
    have plain : c.isFollowed = false := by
      rw [Bool.or_eq_true, isFunctionLike_iff] at leaves
      rw [← Bool.not_eq_true, isFollowed_iff]
      simp only [isReturn, Bool.or_eq_true, beq_iff_eq] at leaves
      rcases leaves with (h | h) | h | h | h <;> simp [h]
    rw [tail plain, zero_add]
    by_cases same : r = c
    · subst same
      have owned : r.ownedBy f = true := (ownedBy_iff hr hf).2
        (.inr ⟨under, isFunctionLike_eq_false returns (by decide)⟩)
      simp [owned]
    · have other : c ≠ r := fun h => same h.symm
      split
      · simp [other]
      · simp
  · rw [if_neg leaves]
    -- everything else leads to what it is followed to
    have other : r ≠ c := by
      rintro rfl
      simp [isReturn, returns] at leaves
    rw [if_neg other, add_zero]
    by_cases expression : c.kind = "ExpressionStatement"
    · have plain : c.isFollowed = false := by simp [isFollowed, isLoop, isChoice, expression]
      rw [if_pos (beq_iff_eq.2 expression), tail plain]
      refine List.count_eq_zero_of_not_mem fun mem => ?_
      exact parent c (parent?_of_mem_children (mem_of_get_nodeList mem)) expression
    · rw [if_neg (mt beq_iff_eq.1 expression), List.count_flatMap, ← sum_count_next wf hr hc]
      exact congrArg List.sum (List.map_congr_left ih)
termination_by sizeOf c.node
decreasing_by exact sizeOf_lt_of_mem_next hd

/-! ### How often a statement is a candidate -/

/-- What the statements on the path of a return of a function are: directly under the function,
and either a return or followed to others. -/
structure OnPath (n : Node) (f s : Site) : Prop where
  walk : s ∈ (root n).walk
  under : s.DirectlyUnder f
  kind : s.kind = "ReturnStatement" ∨ s.isFollowed = true

theorem isFunctionLike_eq_false_of_isFollowed (h : s.isFollowed = true) :
    s.isFunctionLike = false := by
  rw [← Bool.not_eq_true, isFunctionLike_iff]
  rcases isFollowed_iff.1 h with h | h | h | h | h | h | h <;> simp [h]

theorem OnPath.isFunctionLike (h : OnPath n f s) : s.isFunctionLike = false := by
  rcases h.kind with hk | hk
  · exact isFunctionLike_eq_false hk (by decide)
  · exact isFunctionLike_eq_false_of_isFollowed hk

/-- The statement that a statement on the path is reached from is on the path too. -/
theorem OnPath.climb? (function : f.isFunctionLike = true) (h : OnPath n f s)
    (hc : s.climb? = some c) : OnPath n f c := by
  have followed := isFollowed_of_climb? hc
  have other : ∀ p : Site, p.isFunctionLike = false → p ≠ f := by
    rintro p plain rfl
    rw [function] at plain
    cases plain
  have plain := isFunctionLike_eq_false_of_isFollowed followed
  refine ⟨climb?_mem_walk h.walk hc, ?_, .inr followed⟩
  obtain ⟨p, hp, hc⟩ := Option.bind_eq_some_iff.1 hc
  obtain ⟨hpw, child⟩ := mem_children_of_parent? h.walk hp
  have up : p.isFunctionLike = false → p.DirectlyUnder f := fun hplain =>
    ((h.under.parent child).resolve_left (other p hplain)).1
  split_ifs at hc with choice branch loop unbraced case
  · obtain rfl := Option.some.inj hc
    exact up plain
  · obtain rfl := Option.some.inj hc
    exact up plain
  -- from an item of a case it is two steps up, over the case
  · have hk : p.isFunctionLike = false := by
      rw [Bool.and_eq_true] at case
      exact isFunctionLike_eq_false (eq_of_beq case.1) (by decide)
    obtain ⟨-, child'⟩ := mem_children_of_parent? hpw (Option.filter_eq_some_iff.1 hc).1
    exact (((up hk).parent child').resolve_left (other c plain)).1

theorem onPath_of_mem_path (function : f.isFunctionLike = true) (hr : r ∈ (root n).walk)
    (under : r.DirectlyUnder f) (returns : r.kind = "ReturnStatement") :
    ∀ s ∈ r.path, OnPath n f s :=
  path_induction ⟨hr, under, .inl returns⟩ fun _ _ h hc => h.climb? function hc

/-- The body of a function is the only block directly under it that shares its scope. -/
theorem isFunctionBody_iff (hf : f ∈ (root n).walk) (function : f.isFunctionLike = true)
    (hb : f.get "body" = .node body) (hbw : body ∈ (root n).walk) (hp : p ∈ (root n).walk)
    (under : p.DirectlyUnder f) : p.isFunctionBody = (f.get "body").isSite p := by
  rw [Bool.eq_iff_iff]
  constructor
  · intro h
    unfold isFunctionBody at h
    split at h
    · next g hg =>
      rw [Bool.and_eq_true] at h
      obtain ⟨-, child⟩ := mem_children_of_parent? hp hg
      rcases under.parent child with rfl | ⟨-, plain⟩
      · exact h.2
      · rw [h.1] at plain
        cases plain
    · cases h
  · intro h
    have same : body = p := by
      rw [hb] at h
      exact (same_iff hbw hp).1 h
    have child : p ∈ f.children := same ▸ mem_children_of_get hb
    rw [isFunctionBody, parent?_of_mem_children child]
    simp [function, h]

open Classical in
/-- What a site gives, sorted by what kind of scope it opens. -/
theorem count_given (f b s : Site) : (given f b).count s =
    (if b.opens = some .switch then [b].count s else 0) +
    (if b.opens = some .loop then (b.unbraced "body").count s else 0) +
    (if b.opens = some .block then ((b.get "body").nodeList).count s else 0) +
    (if b.opens = some .function ∧ b.same f = true then f.bodyStatements.count s else 0) := by
  unfold given
  cases b.opens with
  | none => simp
  | some kind =>
    cases kind with
    | function =>
      by_cases same : b.same f = true
      · simp [same]
      · simp [same]
    | block => simp
    | switch => simp
    | loop => simp
    | global => simp
    | handler => simp
    | classBody => simp

theorem DirectlyUnder.exists_parent (h : s.DirectlyUnder f) : ∃ p, s.parent? = some p := by
  obtain ⟨between, hl, -⟩ := h
  rw [lineage_cons, List.cons_inj_right, lineage_cons f] at hl
  cases hp : s.parent? with
  | none => simp [hp] at hl
  | some p => exact ⟨p, rfl⟩

open Classical in
theorem count_as_switch (s : Site) : (if s.opens = some .switch then [s].count s else 0) =
    (s.kind == "SwitchStatement").toNat := by
  refine ite_count_eq_toNat (List.nodup_singleton s) ?_
  simp [opens_eq_switch_iff]

open Classical in
theorem count_in_loop (hs : s ∈ (root n).walk) (hp : p ∈ (root n).walk) :
    (if p.opens = some .loop then (p.unbraced "body").count s else 0) =
      (p.isScopedLoop && !s.isBlock && s.isIn p "body").toNat := by
  refine ite_count_eq_toNat (nodup_unbraced p "body") ?_
  rw [Bool.and_eq_true, Bool.and_eq_true, isIn_iff hs hp, mem_unbraced, opens_eq_loop_iff,
    Bool.not_eq_true']
  tauto

open Classical in
theorem count_in_block (hf : f ∈ (root n).walk) (function : f.isFunctionLike = true)
    (hb : f.get "body" = .node body) (hs : s ∈ (root n).walk) (under : s.DirectlyUnder f)
    (hp : p ∈ (root n).walk) (child : s ∈ p.children) :
    (if p.opens = some .block then (p.get "body").nodeList.count s else 0) =
      (p.isBlock && s.isIn p "body" && !(f.get "body").isSite p).toNat := by
  refine ite_count_eq_toNat (nodup_get p "body") ?_
  rw [Bool.and_eq_true, Bool.and_eq_true, isIn_iff hs hp, opens_eq_block_iff, Bool.not_eq_true']
  by_cases block : p.isBlock = true
  · have other : p ≠ f := by
      rintro rfl
      rw [isFunctionLike_eq_false_of_isBlock block] at function
      cases function
    have hbw := mem_walk_of_mem_children hf (mem_children_of_get hb)
    rw [isFunctionBody_iff hf function hb hbw hp ((under.parent child).resolve_left other).1]
    tauto
  · simp [block]

/-- Among the statements on the path all but the choices between cases count in a body. -/
theorem OnPath.counts_in_body (h : OnPath n f s) :
    (s.kind == "ReturnStatement" || s.isTransparent) = true ↔ s.kind ≠ "SwitchStatement" := by
  rw [isTransparent_eq]
  rcases h.kind with hk | hk
  · simp [hk]
  · rcases isFollowed_iff.1 hk with hk | hk | hk | hk | hk | hk | hk <;>
      simp [hk, isLoop, isChoice]

open Classical in
theorem count_in_body (hf : f ∈ (root n).walk) (function : f.isFunctionLike = true)
    (hb : f.get "body" = .node body) (block : body.isBlock = true) (h : OnPath n f s)
    (hp : p ∈ (root n).walk) (child : s ∈ p.children) :
    (if f.opens = some .function ∧ f.same f = true then f.bodyStatements.count s else 0) =
      (p.isBlock && s.isIn p "body" && (f.get "body").isSite p &&
        s.kind != "SwitchStatement").toNat := by
  have hbw := mem_walk_of_mem_children hf (mem_children_of_get hb)
  have statements : f.bodyStatements = (body.get "body").nodeList.filter fun s =>
      s.kind == "ReturnStatement" || s.isTransparent := by
    rw [bodyStatements, hb]
    simp [Slot.nodeList, Slot.entries, Entry.node?, block]
  have same : (f.get "body").isSite p = true ↔ p = body := by
    rw [hb, Value.isSite, same_iff hbw hp, eq_comm]
  rw [statements]
  refine ite_count_eq_toNat ((nodup_get body "body").filter _) ?_
  rw [Bool.and_eq_true, Bool.and_eq_true, Bool.and_eq_true, isIn_iff h.walk hp, same,
    List.mem_filter, h.counts_in_body, opens_eq_function_iff, same_iff hf hf, bne_iff_ne]
  constructor
  · rintro ⟨⟨⟨-, hin⟩, rfl⟩, plain⟩
    exact ⟨⟨function, rfl⟩, hin, plain⟩
  · rintro ⟨-, hin, plain⟩
    -- an item of the body has no other parent
    have up := (parent?_of_mem_children child).symm.trans
      (parent?_of_mem_children (mem_of_get_nodeList hin))
    obtain rfl := Option.some.inj up
    exact ⟨⟨⟨block, hin⟩, rfl⟩, plain⟩

open Classical in
/-- A statement on the path of a return is a candidate as often as `entrances` says. -/
theorem count_allGiven (hf : f ∈ (root n).walk) (function : f.isFunctionLike = true)
    (hb : f.get "body" = .node body) (block : body.isBlock = true) (h : OnPath n f s) :
    ((root n).allGiven f).count s = entrances f s := by
  obtain ⟨p, hp⟩ := h.under.exists_parent
  obtain ⟨hpw, child⟩ := mem_children_of_parent? h.walk hp
  have nodup : ((root n).walk.filter (·.ownedBy f)).Nodup := (nodup_walk _).filter _
  -- the statement, its parent and the function belong to the function, if they open scopes at all
  have ownS : s ∈ (root n).walk.filter (·.ownedBy f) :=
    List.mem_filter.2 ⟨h.walk, (ownedBy_iff h.walk hf).2 (.inr ⟨h.under, h.isFunctionLike⟩)⟩
  have ownP : p ∈ (root n).walk.filter (·.ownedBy f) :=
    List.mem_filter.2 ⟨hpw, (ownedBy_iff hpw hf).2 (h.under.parent child)⟩
  have ownF : f ∈ (root n).walk.filter (·.ownedBy f) :=
    List.mem_filter.2 ⟨hf, (ownedBy_iff hf hf).2 (.inl rfl)⟩
  have onlyParent : ∀ b name, b ≠ p → s ∉ (b.get name).nodeList := by
    intro b name other mem
    have up := parent?_of_mem_children (mem_of_get_nodeList mem)
    rw [hp] at up
    exact other (Option.some.inj up).symm
  rw [allGiven, List.count_flatMap]
  simp only [Function.comp_def, count_given, List.sum_map_add]
  -- to each of the four sums one scope alone contributes
  rw [sum_map_eq_of_mem nodup ownS, sum_map_eq_of_mem nodup ownP, sum_map_eq_of_mem nodup ownP,
    sum_map_eq_of_mem nodup ownF, count_as_switch, count_in_loop h.walk hpw,
    count_in_block hf function hb h.walk h.under hpw child,
    count_in_body hf function hb block h hpw child, entrances, hp]
  · rfl
  · intro b hbw other
    rw [if_neg]
    rintro ⟨-, same⟩
    exact other ((same_iff (List.mem_of_mem_filter hbw) hf).1 same)
  · intro b _ other
    rw [List.count_eq_zero_of_not_mem (onlyParent b "body" other), ite_self]
  · intro b _ other
    have absent : s ∉ b.unbraced "body" := fun mem =>
      onlyParent b "body" other (mem_get_of_mem_unbraced mem)
    rw [List.count_eq_zero_of_not_mem absent, ite_self]
  · intro b _ other
    have absent : s ∉ [b] := fun mem => other (List.mem_singleton.1 mem).symm
    rw [List.count_eq_zero_of_not_mem absent, ite_self]

/-! ### The count -/

open Classical in
theorem countP_isSite {sites : List Site} (hsites : ∀ s ∈ sites, s ∈ (root n).walk)
    (hr : r ∈ (root n).walk) :
    (sites.map Slot.node : List Value).countP (·.isSite r) = sites.count r := by
  rw [List.countP_map, List.count]
  refine List.countP_congr fun s hs => ?_
  show s.same r = true ↔ (s == r) = true
  rw [same_iff (hsites s hs) hr, beq_iff_eq]

/-- In the program of every concrete tree the return surface of a function with a body in braces
lists each of its returns as often as the statements on the path of the return are candidates of
the function. -/
theorem count_returnSurface {tree : Concrete} (converted : Conversion.convert source tree = .ok n)
    (hf : f ∈ (root n).walk) (function : f.isFunctionLike = true)
    (hb : f.get "body" = .node body) (block : body.isBlock = true) (hr : r ∈ (root n).walk)
    (returns : r.kind = "ReturnStatement") (under : r.DirectlyUnder f)
    (parent : ∀ p ∈ r.parent?, p.kind ≠ "ExpressionStatement") :
    ∃ scopes surface, Scope.all (root n) = .ok scopes ∧ f.returnSurface scopes = .ok surface ∧
      (surface.getD []).countP (·.isSite r) = (r.path.map (entrances f)).sum := by
  classical
  have wf := Conversion.convert_wellFormed converted
  have hbw := mem_walk_of_mem_children hf (mem_children_of_get hb)
  refine ⟨_, _, Scope.all_eq wf, returnSurface_eq wf hf function, ?_⟩
  have inWalk := allGiven_subset hf
  have found : (if (root n).allGiven f = [] then none
      else some ((((root n).allGiven f).flatMap f.follow).map Slot.node)).getD [] =
        ((((root n).allGiven f).flatMap f.follow).map Slot.node : List Value) := by
    split
    · next empty => rw [empty]; rfl
    · rfl
  rw [found, countP_isSite _ hr]
  · calc (((root n).allGiven f).flatMap f.follow).count r
        = (((root n).allGiven f).map fun c => (f.follow c).count r).sum := List.count_flatMap
      _ = (((root n).allGiven f).map fun c => r.path.count c).sum :=
          congrArg List.sum (List.map_congr_left fun c hc =>
            count_follow wf hb hbw block hf hr returns under parent (inWalk c hc))
      _ = (r.path.map fun s => ((root n).allGiven f).count s).sum := sum_map_count _ _
      _ = (r.path.map (entrances f)).sum :=
          congrArg List.sum (List.map_congr_left fun s hs =>
            count_allGiven hf function hb block (onPath_of_mem_path function hr under returns s hs))
  · intro x hx
    obtain ⟨c, hc, hx⟩ := List.mem_flatMap.1 hx
    exact mem_walk_of_mem_follow (inWalk c hc) x hx

/-- The source `function f(){for(let x of y)return}`. -/
def letLoopSource : SourceText := ⟨#[
  102, 117, 110, 99, 116, 105, 111, 110, 32, 102, 40, 41, 123, 102, 111, 114, 40, 108, 101, 116, 32,
  120, 32, 111, 102, 32, 121, 41, 114, 101, 116, 117, 114, 110, 125]⟩

/-- The concrete tree of `letLoopSource`. -/
def letLoopTree : Concrete :=
  .mk ⟨true, "function_declaration", "", ⟨0, 35⟩⟩ [
    .mk ⟨true, "identifier", "name", ⟨9, 10⟩⟩ [],
    .mk ⟨true, "formal_parameters", "parameters", ⟨10, 12⟩⟩ [],
    .mk ⟨true, "statement_block", "body", ⟨12, 35⟩⟩ [
      .mk ⟨true, "for_in_statement", "", ⟨13, 34⟩⟩ [
        .mk ⟨false, "let", "kind", ⟨17, 20⟩⟩ [],
        .mk ⟨true, "identifier", "left", ⟨21, 22⟩⟩ [],
        .mk ⟨false, "of", "operator", ⟨23, 25⟩⟩ [],
        .mk ⟨true, "identifier", "right", ⟨26, 27⟩⟩ [],
        .mk ⟨true, "return_statement", "body", ⟨28, 34⟩⟩ []]]]

/-- The return of the loop is reached through the body of the function and through the scope of the
loop. -/
theorem letLoopTree_count : ∃ n scopes surface r,
    Conversion.convert letLoopSource letLoopTree = .ok n ∧ Scope.all (root n) = .ok scopes ∧
      (root n).returnSurface scopes = .ok surface ∧ r.kind = "ReturnStatement" ∧
      (surface.getD []).countP (·.isSite r) = 2 := by
  obtain ⟨n, converted⟩ : ∃ n, Conversion.convert letLoopSource letLoopTree = .ok n := ⟨_, rfl⟩
  obtain ⟨body, hb⟩ : ∃ body, (root n).get "body" = .node body := by
    cases converted
    exact ⟨_, rfl⟩
  obtain ⟨loop, hl⟩ : ∃ loop, body.get "body" = .nodes [loop] := by
    cases converted
    cases hb
    exact ⟨_, rfl⟩
  obtain ⟨r, hr⟩ : ∃ r, loop.get "body" = .node r := by
    cases converted
    cases hb
    cases hl
    exact ⟨_, rfl⟩
  have function : (root n).isFunctionLike = true := by cases converted; rfl
  have facts : body.isBlock = true ∧ loop.kind = "ForOfStatement" ∧ r.kind = "ReturnStatement" := by
    cases converted
    cases hb
    cases hl
    cases hr
    exact ⟨rfl, rfl, rfl⟩
  have up : r.climb? = some loop ∧ loop.climb? = none ∧
      entrances (root n) r = 1 ∧ entrances (root n) loop = 1 := by
    cases converted
    cases hb
    cases hl
    cases hr
    exact ⟨rfl, rfl, rfl, rfl⟩
  obtain ⟨block, kind, returns⟩ := facts
  have inFunction := mem_children_of_get hb
  have inBody := mem_children_of_get_nodes hl (List.mem_singleton_self loop)
  have inLoop := mem_children_of_get hr
  have walk : r ∈ (root n).walk :=
    mem_walk_of_mem_children (mem_walk_of_mem_children
      (mem_walk_of_mem_children (mem_walk_self _) inFunction) inBody) inLoop
  have under : r.DirectlyUnder (root n) := by
    refine ((DirectlyUnder.of_mem_children inFunction).child ?_ inBody).child ?_ inLoop
    · exact isFunctionLike_eq_false_of_isBlock block
    · rw [isFunctionLike, kind]
      rfl
  have parent : ∀ p ∈ r.parent?, p.kind ≠ "ExpressionStatement" := by
    intro p hp
    rw [parent?_of_mem_children inLoop] at hp
    obtain rfl := Option.some.inj hp
    rw [kind]
    decide
  obtain ⟨scopes, surface, hs, hf, count⟩ := count_returnSurface converted (mem_walk_self _)
    function hb block walk returns under parent
  refine ⟨n, scopes, surface, r, converted, hs, hf, returns, ?_⟩
  rw [count, path_of_climb?_eq_some up.1, path_of_climb?_eq_none up.2.1]
  simp [up.2.2]

end Site

end PropOrder
