import PropOrder.Proofs.Inspection

/-!
# Every route ends in a declaration list

The lists that an inspection checks are the properties of objects and of object patterns, the
members of type literals and of interfaces (`DeclarationList`), so that whatever it finds is found
in one of these (`checksLists_run`).
-/

namespace PropOrder

/-- The lists of a program that the ordering rule is about. -/
inductive DeclarationList (r : Site) : Value → Prop
  /-- The properties of an object or of an object pattern. -/
  | object {s : Site} (hs : s ∈ r.walk)
    (hk : s.kind = "ObjectExpression" ∨ s.kind = "ObjectPattern") :
    DeclarationList r (s.get "properties")
  /-- The members of a type literal. -/
  | typeLiteral {s : Site} (hs : s ∈ r.walk) (hk : s.kind = "TSTypeLiteral") :
    DeclarationList r (s.get "members")
  /-- The members of an interface. -/
  | interface {s : Site} (hs : s ∈ r.walk) (hk : s.kind = "TSInterfaceBody") :
    DeclarationList r (s.get "body")

namespace Inspection
open Site
variable {i : Inspection} {m : Except Fault (List Diagnostic)} {found : List Diagnostic}
  {P : Value → Prop}

/-! ### Readings that stay with declaration lists -/

/-- A reading checks declaration lists of the program and nothing else, or fails where the root of
the program holds a single node in the place of its statements. -/
def ChecksLists (i : Inspection) (m : Except Fault (List Diagnostic)) : Prop :=
  (∃ lists, (∀ L ∈ lists, DeclarationList i.program L) ∧ m = i.checkLists lists) ∨
    (SingleBody i.program ∧ ∃ fault, m = .error fault)

/-- Nothing is found in a list that is missing. -/
theorem checkLists_filter (lists : List Value) :
    i.checkLists (lists.filter fun L => !L.isNull) = i.checkLists lists := by
  induction lists with
  | nil => rfl
  | cons L lists ih =>
    rw [checkLists_cons, ← ih]
    by_cases missing : L.isNull = true
    · rw [List.filter_cons_of_neg (by simpa using missing), Slot.eq_null_of_isNull missing]
      cases i.checkLists (lists.filter fun L => !L.isNull) <;> rfl
    · rw [List.filter_cons_of_pos (by simpa using missing), checkLists_cons]

theorem Checks.checksLists (h : i.Checks m P)
    (lists : ∀ L, P L → DeclarationList i.program L ∨ L = .null) : i.ChecksLists m := by
  rcases h with ⟨l, hl, rfl⟩ | ⟨single, l, -, rfl⟩
  · refine .inl ⟨l.filter fun L => !L.isNull, ?_, (checkLists_filter l).symm⟩
    intro L hL
    obtain ⟨mem, given⟩ := List.mem_filter.1 hL
    refine (lists L ((hl L).1 mem)).resolve_right ?_
    rintro rfl
    cases given
  · cases i.checkLists l with
    | error fault => exact .inr ⟨single, fault, rfl⟩
    | ok found => exact .inr ⟨single, .notAList, rfl⟩

/-- Whatever such a reading finds is found in one of the lists. -/
theorem ChecksLists.exists_list (h : i.ChecksLists m) (hm : m = .ok found) :
    ∀ d ∈ found, ∃ L, DeclarationList i.program L ∧ Returns (i.checkList L) fun ds => d ∈ ds := by
  rcases h with ⟨lists, hlists, rfl⟩ | ⟨-, fault, rfl⟩
  · intro d hd
    obtain ⟨L, hL, found⟩ := mem_checkLists hm d hd
    exact ⟨L, hlists L hL, found⟩
  · cases hm

/-- If nothing is found in any list, such a reading finds nothing. -/
theorem ChecksLists.silent (h : i.ChecksLists m)
    (sorted : ∀ L, DeclarationList i.program L → i.checkList L = .ok []) :
    m = .ok [] ∨ (SingleBody i.program ∧ ∃ fault, m = .error fault) := by
  rcases h with ⟨lists, hlists, rfl⟩ | failed
  · have each : lists.mapM i.checkList = .ok (lists.map fun _ => []) :=
      mapM_eq_ok_map fun L hL => sorted L (hlists L hL)
    have flat : (lists.map fun _ => ([] : List Diagnostic)).flatten = [] := by simp
    rw [checkLists, each, ok_bind, flat]
    exact .inl rfl
  · exact .inr failed

section Routes
variable {source : SourceText} {s : Site} (h : i.OfWellFormed source)
include h

/-! ### The lists are declaration lists -/

theorem declarationList_properties (hs : s ∈ i.program.walk) :
    DeclarationList i.program (s.get "properties") ∨ s.get "properties" = .null := by
  cases hc : contentOf s.kind "properties" with
  | none => exact .inr (get_of_contentOf_eq_none (h.wellFormed hs) hc)
  | some content =>
    have hk : s.kind = "ObjectExpression" ∨ s.kind = "ObjectPattern" :=
      kind_of_contentOf (P := fun kind => kind = "ObjectExpression" ∨ kind = "ObjectPattern") hc
        (by decide) (by decide)
    exact .inl (.object hs hk)

theorem declarationList_members (hs : s ∈ i.program.walk) :
    DeclarationList i.program (s.get "members") ∨ s.get "members" = .null := by
  cases hc : contentOf s.kind "members" with
  | none => exact .inr (get_of_contentOf_eq_none (h.wellFormed hs) hc)
  | some content =>
    have hk : s.kind = "TSTypeLiteral" :=
      kind_of_contentOf (P := fun kind => kind = "TSTypeLiteral") hc (by decide) (by decide)
    exact .inl (.typeLiteral hs hk)

theorem OfWellFormed.mem_walk_of_standsFor {o : Site} (hs : s ∈ i.program.walk)
    (bound : StandsFor i.program s o) : o ∈ i.program.walk := by
  rcases (returnsUnless_binding h.top h.wf (s.get "name") hs).of_eq_ok bound with
    hnull | ⟨o', ho', he⟩
  · cases hnull
  · cases he
    exact ho'

theorem OfWellFormed.mem_walk_of_leadsTo {o : Site}
    (leads : LeadsTo i.program i.wrappers s o) (hs : s ∈ i.program.walk) :
    o ∈ i.program.walk := by
  have inside : ∀ {s u : Site}, s ∈ i.program.walk → s.unwrapClaim = .node u →
      u ∈ i.program.walk := by
    intro s u hs hu
    rcases inWalk_unwrapClaim h.wf hs with hnull | ⟨u', hu', he⟩
    · cases hu.symm.trans hnull
    · cases hu.symm.trans he
      exact hu'
  induction leads with
  | object hu => exact inside hs hu
  | name hu _ bound => exact h.mem_walk_of_standsFor (inside hs hu) bound
  | wrapper hu wraps _ ih =>
    exact ih (mem_walk_of_mem_children (inside hs hu)
      (mem_of_get_nodeList (List.mem_of_mem_head? wraps.first)))

theorem declarationList_of_led {name : String} {L : Value} (hs : s ∈ i.program.walk)
    (led : LedList i s name L) : DeclarationList i.program L ∨ L = .null := by
  obtain ⟨e, o, he, leads, rfl⟩ := led
  exact declarationList_properties h (h.mem_walk_of_leadsTo leads (mem_walk_of_get hs he))

theorem declarationList_of_named {name L : Value} (named : NamedMembers i.program name L) :
    DeclarationList i.program L ∨ L = .null := by
  obtain ⟨-, item, mem, d, ⟨place, -⟩, -, own⟩ := named
  have hitem := mem_walk_of_mem_children (mem_walk_self i.program) (mem_of_get_nodeList mem)
  have hd : d ∈ i.program.walk := by
    rcases place with rfl | ⟨-, declared⟩
    · exact hitem
    · exact mem_walk_of_get hitem declared
  unfold OwnMembers at own
  split at own
  · next interface =>
    obtain ⟨body, hbody, rfl⟩ := own
    have content : contentOf d.kind "body" = some (.node (some "TSInterfaceBody")) := by
      rw [interface]
      rfl
    rcases get_node (h.wellFormed hd) content with hg | ⟨body', -, hg, kind⟩
    · cases hg.symm.trans hbody
    · cases hg.symm.trans hbody
      exact .inl (.interface (mem_walk_of_get hd hbody) (kind _ rfl))
  · obtain ⟨type, htype, rfl⟩ := own
    exact declarationList_members h (mem_walk_of_get hd htype)

theorem declarationList_of_listed {L : Value} (hs : s ∈ i.program.walk)
    (listed : ListedMembers i.program s L) : DeclarationList i.program L ∨ L = .null := by
  obtain ⟨b, hb, members⟩ := listed
  have walk : b ∈ i.program.walk := by
    unfold bareType at hb
    split at hb
    · exact mem_walk_of_get hs hb
    · cases hb
      exact hs
  cases members with
  | literal => exact declarationList_members h walk
  | reference _ _ named => exact declarationList_of_named h named

/-- Every list that is checked at a node of the program is a declaration list, or missing. -/
theorem declarationList_of_checksAt {L : Value} (hs : s ∈ i.program.walk)
    (checked : i.ChecksAt s L) : DeclarationList i.program L ∨ L = .null := by
  rcases checked with ⟨-, -, -, c, first, given⟩ | ⟨-, -, led⟩ | ⟨-, -, -, p, hp, led⟩ |
    ⟨-, m, mem, -, -, o, ho, -, rfl⟩ | ⟨-, -, a, ha, t, first, listed⟩ |
    ⟨-, -, p, mem, q, a, hq, ha, listed⟩
  · have hc := mem_walk_of_mem_children hs (mem_of_get_nodeList (List.mem_of_mem_head? first))
    unfold ArgumentProperties at given
    split at given
    · obtain ⟨-, o, bound, rfl⟩ := given
      exact declarationList_properties h (h.mem_walk_of_standsFor hc bound)
    · rw [given]
      exact declarationList_properties h hc
  · exact declarationList_of_led h hs led
  · exact declarationList_of_led h (h.mem_walk_parent hs hp) led
  · have hm := mem_walk_of_mem_children hs (mem_of_get_nodeList mem)
    exact declarationList_properties h (mem_walk_of_get hm ho)
  · have ht := mem_of_get_nodeList (List.mem_of_mem_head? first)
    have walk := mem_walk_of_mem_children (mem_walk_of_get hs ha) ht
    exact declarationList_of_listed h walk listed
  · have hp := mem_walk_of_mem_children hs (mem_of_get_nodeList mem)
    rcases inWalk_pattern h hp with hnull | ⟨q', hq', he⟩
    · cases hq.symm.trans hnull
    · cases hq.symm.trans he
      exact declarationList_of_listed h (mem_walk_of_get hq' ha) listed

/-- A declaration list is a list of nodes of the program, if it is there. -/
theorem items_declarationList {L : Value} (hL : DeclarationList i.program L ∨ L = .null) :
    L.items = .ok (L.nodeList.map .node) ∧ ∀ x ∈ L.nodeList, x ∈ i.program.walk := by
  have held : ∀ {s : Site} {name : String}, s ∈ i.program.walk →
      ∀ x ∈ (s.get name).nodeList, x ∈ i.program.walk := fun hs x hx =>
    mem_walk_of_mem_children hs (mem_of_get_nodeList hx)
  rcases hL with hL | rfl
  · cases hL with
    | object hs _ => exact ⟨items_listField (h.wellFormed hs) rfl, held hs⟩
    | typeLiteral hs _ => exact ⟨items_listField (h.wellFormed hs) rfl, held hs⟩
    | @interface s hs kind =>
      have content : contentOf s.kind "body" = some .list := by rw [kind]; rfl
      exact ⟨items_get (h.wellFormed hs) content, held hs⟩
  · refine ⟨rfl, fun x hx => ?_⟩
    cases hx

/-- What is found in a whole program is found in declaration lists of the program. -/
theorem checksLists_run : i.ChecksLists (i.run i.program) :=
  (checks_run h).checksLists fun _ ⟨_, hs, checked⟩ => declarationList_of_checksAt h hs checked

end Routes

end Inspection

end PropOrder
