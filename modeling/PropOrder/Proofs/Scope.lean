import PropOrder.Proofs.Surface.Boundary

/-!
# Scopes are shared out among the functions

Every scope of a program belongs to one owner: to the nearest function on the way up from its
block, the block included, or to the program if there is none (`ownedBy_iff_eq_owner`). Since a node
opens one scope at most, the scopes of the owners put together are the scopes of the program, none
lost and none twice (`scopes_sharedOut`).
-/

namespace PropOrder

/-- The groups that a list falls into by the owners of its items make up the list. -/
theorem perm_flatMap_filter {α β : Type} {owners : List β} {owner : α → β} {p : β → α → Bool}
    (nodup : owners.Nodup) {l : List α} (listed : ∀ a ∈ l, owner a ∈ owners)
    (only : ∀ a ∈ l, ∀ o ∈ owners, p o a = true ↔ o = owner a) :
    (owners.flatMap fun o => l.filter (p o)).Perm l := by
  induction l with
  | nil => simp
  | cons a l ih =>
    have rest : (owners.flatMap fun o => l.filter (p o)).Perm l :=
      ih (fun b hb => listed b (List.mem_cons_of_mem _ hb))
        fun b hb => only b (List.mem_cons_of_mem _ hb)
    -- the first item goes to its owner and leaves the groups of all others as they are
    obtain ⟨front, back, hsplit⟩ := List.append_of_mem (listed a (List.mem_cons_self ..))
    have others : ∀ o ∈ front ++ back, (a :: l).filter (p o) = l.filter (p o) := by
      intro o ho
      have mem : o ∈ owners := by
        rw [hsplit]
        rcases List.mem_append.1 ho with ho | ho
        · exact List.mem_append_left _ ho
        · exact List.mem_append_right _ (List.mem_cons_of_mem _ ho)
      have ne : o ≠ owner a := by
        rintro rfl
        rw [hsplit, List.nodup_middle, List.nodup_cons] at nodup
        exact nodup.1 ho
      exact List.filter_cons_of_neg fun h => ne ((only a (List.mem_cons_self ..) o mem).1 h)
    have accepts : p (owner a) a :=
      (only a (List.mem_cons_self ..) _ (listed a (List.mem_cons_self ..))).2 rfl
    have own : (a :: l).filter (p (owner a)) = a :: l.filter (p (owner a)) :=
      List.filter_cons_of_pos accepts
    have first : (front.flatMap fun o => (a :: l).filter (p o)) =
        front.flatMap fun o => l.filter (p o) :=
      List.flatMap_congr fun o ho => others o (List.mem_append_left _ ho)
    have last : (back.flatMap fun o => (a :: l).filter (p o)) =
        back.flatMap fun o => l.filter (p o) :=
      List.flatMap_congr fun o ho => others o (List.mem_append_right _ ho)
    rw [hsplit] at rest ⊢
    rw [List.flatMap_append, List.flatMap_cons] at rest ⊢
    rw [first, own, last, List.cons_append]
    exact List.perm_middle.trans (rest.cons a)

namespace Site
variable {n : Node} {s o : Site}

/-- The function that a site belongs to: the nearest function among the site and its ancestors, or
the program if there is none. -/
def owner (program s : Site) : Site := (s.lineage.find? (·.isFunctionLike)).getD program

/-- The program and its functions. -/
def owners (program : Site) : List Site := program :: program.walk.filter (·.isFunctionLike)

theorem nodup_owners (plain : (root n).isFunctionLike = false) : (owners (root n)).Nodup := by
  refine List.nodup_cons.2 ⟨fun h => ?_, (nodup_walk _).filter _⟩
  rw [(List.mem_filter.1 h).2] at plain
  cases plain

theorem owner_mem_owners (hs : s ∈ (root n).walk) : owner (root n) s ∈ owners (root n) := by
  unfold owner
  cases hf : s.lineage.find? (·.isFunctionLike) with
  | none => exact List.mem_cons_self ..
  | some f =>
    have mem := mem_walk_of_mem_lineage hs f (List.mem_of_find?_eq_some hf)
    have function := List.find?_some hf
    exact List.mem_cons_of_mem _ (List.mem_filter.2 ⟨mem, function⟩)

/-! ### Who owns a site -/

/-- The way up from a site ends at the root. -/
theorem root_mem_lineage (hs : s ∈ (root n).walk) : root n ∈ s.lineage := by
  refine walk_induction (P := fun s => root n ∈ s.lineage) (List.mem_singleton_self _) ?_ s hs
  intro p _ ih c hc
  rw [lineage_of_mem_children hc]
  exact List.mem_cons_of_mem _ ih

/-- To a function belong the sites whose nearest function it is. -/
theorem ownedBy_iff_of_isFunctionLike (hs : s ∈ (root n).walk) (ho : o ∈ (root n).walk)
    (function : o.isFunctionLike = true) :
    s.ownedBy o = true ↔ s.lineage.find? (·.isFunctionLike) = some o := by
  have boundary : s.nearestBoundary? o = s.lineage.find? (·.isFunctionLike) := by
    rw [nearestBoundary?, ← List.head?_filter, ← List.head?_filter]
    refine congrArg List.head? (List.filter_congr fun a ha => ?_)
    cases same : a.same o with
    | false => rfl
    | true =>
      obtain rfl := (same_iff (mem_walk_of_mem_lineage hs a ha) ho).1 same
      exact function.symm
  rw [ownedBy, boundary]
  cases hf : s.lineage.find? (·.isFunctionLike) with
  | none => simp
  | some f =>
    have mem := mem_walk_of_mem_lineage hs f (List.mem_of_find?_eq_some hf)
    rw [Option.any_some, same_iff mem ho, Option.some.injEq]

/-- To a program that is no function belong the sites with no function on the way up. -/
theorem ownedBy_root_iff (hs : s ∈ (root n).walk) (plain : (root n).isFunctionLike = false) :
    s.ownedBy (root n) = true ↔ s.lineage.find? (·.isFunctionLike) = none := by
  rw [ownedBy_iff hs (mem_walk_self _), List.find?_eq_none]
  constructor
  · rintro (rfl | ⟨⟨between, hl, hb⟩, hsf⟩) a ha
    · rw [List.mem_singleton.1 ha, Bool.not_eq_true]
      exact plain
    · rw [hl] at ha
      rcases List.mem_cons.1 ha with rfl | ha
      · simp [hsf]
      · rcases List.mem_append.1 ha with ha | ha
        · simp [hb a ha]
        · rw [List.mem_singleton.1 ha, Bool.not_eq_true]
          exact plain
  · intro none
    refine (ownedBy_iff hs (mem_walk_self _)).1 ?_
    rw [ownedBy, nearestBoundary?, Option.any_eq_true]
    have found : (s.lineage.find? fun a => a.same (root n) || a.isFunctionLike).isSome = true :=
      List.find?_isSome.2 ⟨root n, root_mem_lineage hs, by simp [same]⟩
    obtain ⟨a, ha⟩ := Option.isSome_iff_exists.1 found
    refine ⟨a, ha, ?_⟩
    -- what is found is no function, and so it is the root
    have reason := List.find?_some ha
    have noFunction := none a (List.mem_of_find?_eq_some ha)
    simpa [noFunction] using reason

/-- A site belongs to one owner alone. -/
theorem ownedBy_iff_eq_owner (hs : s ∈ (root n).walk) (plain : (root n).isFunctionLike = false)
    (ho : o ∈ owners (root n)) : s.ownedBy o = true ↔ o = owner (root n) s := by
  rcases List.mem_cons.1 ho with rfl | ho
  · rw [ownedBy_root_iff hs plain, owner]
    cases hf : s.lineage.find? (·.isFunctionLike) with
    | none => simp
    | some f =>
      have function := List.find?_some hf
      have ne : root n ≠ f := by
        rintro rfl
        rw [plain] at function
        cases function
      simp [ne]
  · obtain ⟨mem, function⟩ := List.mem_filter.1 ho
    rw [ownedBy_iff_of_isFunctionLike hs mem function, owner]
    cases hf : s.lineage.find? (·.isFunctionLike) with
    | none =>
      have ne : o ≠ root n := by
        rintro rfl
        rw [plain] at function
        cases function
      simp [ne]
    | some f => simp [eq_comm]

end Site

namespace Scope
open Site

/-- Scopes of a program that are shared out among the program and its functions. -/
structure SharedOut (program : Site) (scopes : List Scope) : Prop where
  /-- The owner of the block of a scope is the program or one of its functions. -/
  listed : ∀ scope ∈ scopes, owner program scope.block ∈ owners program
  /-- A scope belongs to the owner of its block and to no one else. -/
  only : ∀ scope ∈ scopes, ∀ o ∈ owners program,
    scope ∈ ownedBy o scopes ↔ o = owner program scope.block
  /-- No owner is given a scope twice. -/
  once : ∀ o ∈ owners program, (ownedBy o scopes).Nodup
  /-- An owner is given its scopes in the order of the program. -/
  ordered : ∀ o ∈ owners program, (ownedBy o scopes).Sublist scopes
  /-- All that the owners are given is all there is. -/
  whole : ((owners program).flatMap fun o => ownedBy o scopes).Perm scopes

/-- No scope is listed twice, since a site opens one at most. -/
theorem nodup_opened {sites : List Site} (nodup : sites.Nodup) : (opened sites).Nodup := by
  refine nodup.filterMap fun s s' scope hs hs' => ?_
  obtain ⟨kind, -, rfl⟩ := Option.map_eq_some_iff.1 hs
  obtain ⟨kind', -, h⟩ := Option.map_eq_some_iff.1 hs'
  exact (congrArg block h).symm

theorem block_mem_of_mem_opened {sites : List Site} {scope : Scope} (h : scope ∈ opened sites) :
    scope.block ∈ sites := by
  obtain ⟨s, hs, opens⟩ := List.mem_filterMap.1 h
  obtain ⟨kind, -, rfl⟩ := Option.map_eq_some_iff.1 opens
  exact hs

theorem sharedOut_opened {n : Node} (plain : (root n).isFunctionLike = false) :
    SharedOut (root n) (opened (root n).walk) := by
  have nodup : (opened (root n).walk).Nodup := nodup_opened (nodup_walk _)
  have listed : ∀ scope ∈ opened (root n).walk, owner (root n) scope.block ∈ owners (root n) :=
    fun scope h => owner_mem_owners (block_mem_of_mem_opened h)
  have only : ∀ scope ∈ opened (root n).walk, ∀ o ∈ owners (root n),
      scope.block.ownedBy o = true ↔ o = owner (root n) scope.block :=
    fun scope h o ho => ownedBy_iff_eq_owner (block_mem_of_mem_opened h) plain ho
  refine ⟨listed, fun scope h o ho => ?_, fun o _ => nodup.filter _,
    fun o _ => List.filter_sublist, perm_flatMap_filter (nodup_owners plain) listed only⟩
  rw [ownedBy, List.mem_filter, only scope h o ho]
  exact and_iff_right h

/-- What a tree of kind `program` becomes is a program, and so no function. -/
theorem isFunctionLike_of_program {source : SourceText} {tree : Concrete} {n : Node}
    (program : tree.kind = "program") (converted : Conversion.convert source tree = .ok n) :
    (root n).isFunctionLike = false :=
  isFunctionLike_eq_false (show (root n).kind = "Program" from
    Conversion.kind_of_program converted program) (by decide)

/-- **In the program of every concrete tree of kind `program` the scopes are found, and each belongs
to the nearest function on the way up from its block, or to the program: none is lost and none
given twice.** -/
theorem scopes_sharedOut {source : SourceText} {tree : Concrete} {n : Node}
    (program : tree.kind = "program") (converted : Conversion.convert source tree = .ok n) :
    Returns (Scope.all (root n)) (SharedOut (root n)) :=
  ⟨_, all_eq (Conversion.convert_wellFormed converted),
    sharedOut_opened (isFunctionLike_of_program program converted)⟩

/-- The concrete tree of the source `function f(){{}}`. -/
def nestedBlockTree : Concrete :=
  .mk ⟨true, "program", "", ⟨0, 16⟩⟩ [
    .mk ⟨true, "function_declaration", "", ⟨0, 16⟩⟩ [
      .mk ⟨true, "identifier", "name", ⟨9, 10⟩⟩ [],
      .mk ⟨true, "formal_parameters", "parameters", ⟨10, 12⟩⟩ [],
      .mk ⟨true, "statement_block", "body", ⟨12, 16⟩⟩ [
        .mk ⟨true, "statement_block", "", ⟨13, 15⟩⟩ []]]]

/-- The block in the body belongs to the function, which has a scope of its own. -/
theorem nestedBlockTree_sharedOut : ∃ n scopes,
    Conversion.convert (.ofString "function f(){{}}") nestedBlockTree = .ok n ∧
      Scope.all (root n) = .ok scopes ∧ SharedOut (root n) scopes ∧
      scopes.map (·.kind) = [.global, .function, .block] := by
  have kinds : (Conversion.convert (.ofString "function f(){{}}") nestedBlockTree >>= fun n =>
      return (← Scope.all (root n)).map (·.kind)).toOption = some [.global, .function, .block] := by
    decide +kernel
  obtain ⟨n, converted⟩ : ∃ n,
    Conversion.convert (.ofString "function f(){{}}") nestedBlockTree = .ok n := ⟨_, rfl⟩
  obtain ⟨scopes, hs, shared⟩ := scopes_sharedOut rfl converted
  rw [converted, ok_bind, hs, ok_bind] at kinds
  exact ⟨n, scopes, converted, hs, shared, Option.some.inj kinds⟩

end Scope

end PropOrder
