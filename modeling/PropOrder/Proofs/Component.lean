import PropOrder.Component
import PropOrder.Proofs.Binding
import PropOrder.Proofs.Surface

/-!
# Components of a well-formed program

On a well-formed program no reading that looks for components fails, so there is always a list of
them (`succeeds_component_all`). A site of the program is found in the list exactly if it is a
component (`isSome_find?_iff`).
-/

namespace PropOrder

namespace Site
variable {source : SourceText} {s : Site} {name : String}

/-! ### Classes -/

theorem succeeds_isBaseName (wf : s.node.WellFormed source) :
    Succeeds (isBaseName (s.get "name")) := by
  rcases get_name wf with hg | ⟨t, hg⟩
  · rw [hg]
    exact succeeds_ok _
  · rw [hg]
    exact succeeds_ok _

theorem succeeds_extendsComponent (wf : s.node.WellFormed source) :
    Succeeds s.extendsComponent := by
  refine returns_bind_child wf rfl (succeeds_ok false) fun base hb => ?_
  have wfb := wellFormed_of_mem_children wf hb
  by_cases identifier : base.isIdentifier = true
  · simp only [identifier, if_true]
    exact succeeds_isBaseName wfb
  by_cases member : base.kind = "MemberExpression"
  · simp only [identifier, member, beq_self_eq_true, if_true]
    exact returns_bind_child wfb rfl (succeeds_ok false) fun property hp =>
      succeeds_isBaseName (wellFormed_of_mem_children wfb hp)
  · simp only [identifier, member, beq_iff_eq, if_false]
    exact succeeds_ok false

theorem succeeds_isClassComponent (wf : s.node.WellFormed source) :
    Succeeds s.isClassComponent := by
  unfold isClassComponent
  split
  · exact succeeds_extendsComponent wf
  · exact succeeds_ok false

/-! ### Functions -/

theorem succeeds_rendersMarkup?_get (wf : s.node.WellFormed source) {k : Option String}
    (hc : contentOf s.kind name = some (.node k))
    (ih : ∀ c ∈ s.children, Succeeds c.rendersMarkup) :
    Succeeds (rendersMarkup? (s.get name)) := by
  rcases get_node wf hc with hg | ⟨c, mem, hg, -⟩
  · rw [hg]
    exact succeeds_ok false
  · rw [hg]
    exact ih c mem

theorem contentOf_expression_of_isTypeClaim (h : s.isTypeClaim = true) :
    contentOf s.kind "expression" = some .child := by
  simp only [isTypeClaim, Bool.or_eq_true, beq_iff_eq] at h
  rcases h with (h | h) | h
  · rw [h]; rfl
  · rw [h]; rfl
  · rw [h]; rfl

/-- Whether one of two readings that do not fail says yes. -/
theorem succeeds_either {m k : Except Fault Bool} (hm : Succeeds m) (hk : Succeeds k) :
    Succeeds (do if ← m then return true else k) := by
  obtain ⟨b, hb, -⟩ := hm
  rw [hb, ok_bind]
  cases b with
  | true => exact succeeds_ok true
  | false => exact hk

theorem succeeds_rendersMarkup {s : Site} (wf : s.node.WellFormed source) :
    Succeeds s.rendersMarkup := by
  have ih : ∀ c ∈ s.children, Succeeds c.rendersMarkup := fun c hc =>
    succeeds_rendersMarkup (wellFormed_of_mem_children wf hc)
  rw [rendersMarkup_eq]
  split
  · exact succeeds_ok true
  split
  · next conditional =>
    have hk : s.kind = "ConditionalExpression" := eq_of_beq conditional
    have consequent : contentOf s.kind "consequent" = some .child := by rw [hk]; rfl
    have alternate : contentOf s.kind "alternate" = some .child := by rw [hk]; rfl
    exact succeeds_either (succeeds_rendersMarkup?_get wf consequent ih)
      (succeeds_rendersMarkup?_get wf alternate ih)
  split
  · next logical =>
    have hk : s.kind = "LogicalExpression" := eq_of_beq logical
    have left : contentOf s.kind "left" = some .child := by rw [hk]; rfl
    have right : contentOf s.kind "right" = some .child := by rw [hk]; rfl
    exact succeeds_either (succeeds_rendersMarkup?_get wf left ih)
      (succeeds_rendersMarkup?_get wf right ih)
  split
  · next claim =>
    exact succeeds_rendersMarkup?_get wf (contentOf_expression_of_isTypeClaim claim) ih
  · exact succeeds_ok false
termination_by sizeOf s.node
decreasing_by exact sizeOf_lt_of_mem_children hc

theorem succeeds_returnsMarkup (wf : s.node.WellFormed source) :
    Succeeds (returnsMarkup (.node s)) := by
  show Succeeds (if s.kind == "ReturnStatement" then _ else _)
  split
  · next returns =>
    have argument : contentOf s.kind "argument" = some .child := by
      rw [eq_of_beq returns]
      rfl
    exact succeeds_rendersMarkup?_get wf argument fun c hc =>
      succeeds_rendersMarkup (wellFormed_of_mem_children wf hc)
  · exact succeeds_rendersMarkup wf

theorem succeeds_isFunctionComponent {r : Site} (wf : r.node.WellFormed source) (hs : s ∈ r.walk) :
    Succeeds (s.isFunctionComponent (Scope.opened r.walk)) := by
  unfold isFunctionComponent
  split
  · exact succeeds_ok false
  · next component =>
    have function : s.isFunctionLike = true := by
      rw [Bool.or_eq_true, not_or] at component
      simpa using component.1
    obtain ⟨surface, found, inside⟩ := returns_returnSurface wf hs function
    rw [found, ok_bind]
    refine succeeds_anyM fun v hv => ?_
    obtain ⟨x, hx, rfl⟩ := inside v hv
    exact succeeds_returnsMarkup (wellFormed_of_mem_walk wf x hx)

/-! ### Names -/

theorem succeeds_componentName {n : Node} (wf : n.WellFormed source) (hs : s ∈ (root n).walk) :
    Succeeds s.componentName := by
  have wf : (root n).node.WellFormed source := wf
  have wfs := wellFormed_of_mem_walk wf s hs
  refine returns_bind_child wfs rfl ?_ fun id _ => succeeds_ok _
  cases hp : s.parent? with
  | none => exact succeeds_ok _
  | some p =>
    have wfp := wellFormed_of_mem_walk wf p (mem_children_of_parent? hs hp).1
    by_cases declarator : p.kind = "VariableDeclarator"
    · simp only [declarator, beq_self_eq_true, if_true]
      exact returns_bind_child wfp rfl (succeeds_ok _) fun id _ => succeeds_ok _
    · simp only [declarator, beq_iff_eq, if_false]
      exact succeeds_ok _

theorem succeeds_component? {n : Node} (wf : n.WellFormed source) (hs : s ∈ (root n).walk) :
    Succeeds (s.component? (Scope.opened (root n).walk)) := by
  have wfr : (root n).node.WellFormed source := wf
  obtain ⟨name, hname, -⟩ := succeeds_componentName wf hs
  obtain ⟨isClass, hclass, -⟩ := succeeds_isClassComponent (wellFormed_of_mem_walk wfr s hs)
  obtain ⟨isFunction, hfunction, -⟩ := succeeds_isFunctionComponent wfr hs
  rw [component?, hclass, hfunction, hname, ok_bind]
  cases isClass with
  | true => exact succeeds_ok _
  | false =>
    cases isFunction with
    | true => exact succeeds_ok _
    | false => exact succeeds_ok _

end Site

theorem succeeds_component_all {source : SourceText} {n : Node} (wf : n.WellFormed source) :
    Succeeds (Component.all (Site.root n) (Scope.opened (Site.root n).walk)) := by
  have each := Returns.mapM fun s hs => Site.succeeds_component? (s := s) wf hs
  exact each.bind fun components _ => succeeds_ok _

/-- The component that a node is has the node as its site. -/
theorem site_of_component? {s : Site} {scopes : List Scope} {c : Component}
    (h : s.component? scopes = .ok (some c)) : c.site = s := by
  obtain ⟨isClass, -, h⟩ := bind_eq_ok_iff.1 h
  cases isClass with
  | true =>
    obtain ⟨name, -, h⟩ := bind_eq_ok_iff.1 h
    rw [← Option.some.inj (Except.ok.inj h)]
  | false =>
    obtain ⟨isFunction, -, h⟩ := bind_eq_ok_iff.1 h
    cases isFunction with
    | true =>
      obtain ⟨name, -, h⟩ := bind_eq_ok_iff.1 h
      rw [← Option.some.inj (Except.ok.inj h)]
    | false => cases h

/-- Each component of a program is the component that a site of it is. -/
theorem exists_component?_of_mem_all {program : Site} {scopes : List Scope}
    {components : List Component} {c : Component}
    (all : Component.all program scopes = .ok components) (hc : c ∈ components) :
    ∃ s ∈ program.walk, s.component? scopes = .ok (some c) := by
  obtain ⟨answers, ha, hcomponents⟩ := bind_eq_ok_iff.1 all
  obtain rfl := Except.ok.inj hcomponents
  obtain ⟨_, hanswer, rfl⟩ := List.mem_filterMap.1 hc
  exact exists_of_mem_mapM ha hanswer

/-- The components of a program are sites of it. -/
theorem mem_walk_of_mem_all {program : Site} {scopes : List Scope} {components : List Component}
    (all : Component.all program scopes = .ok components) :
    ∀ c ∈ components, c.site ∈ program.walk := by
  intro c hc
  obtain ⟨s, hs, component⟩ := exists_component?_of_mem_all all hc
  rwa [site_of_component? component]

theorem isSome_find?_of_mem {components : List Component} {c : Component} (hc : c ∈ components) :
    (Component.find? components c.site).isSome = true :=
  List.find?_isSome.2 ⟨c, hc, beq_self_eq_true c.site.address⟩

/-- A site of a program is found among its components exactly if it is one. -/
theorem isSome_find?_iff {n : Node} {scopes : List Scope}
    {components : List Component} {s : Site}
    (all : Component.all (Site.root n) scopes = .ok components) (hs : s ∈ (Site.root n).walk) :
    (Component.find? components s).isSome = true ↔ ∃ c, s.component? scopes = .ok (some c) := by
  constructor
  · intro found
    obtain ⟨c, hc, same⟩ := List.find?_isSome.1 found
    obtain ⟨t, ht, component⟩ := exists_component?_of_mem_all all hc
    rw [site_of_component? component] at same
    rw [← (Site.same_iff ht hs).1 same]
    exact ⟨c, component⟩
  · rintro ⟨c, component⟩
    obtain ⟨answers, ha, hcomponents⟩ := bind_eq_ok_iff.1 all
    obtain rfl := Except.ok.inj hcomponents
    obtain ⟨answer, mem, answered⟩ := exists_answer_of_mem ha hs
    obtain rfl := Except.ok.inj (component.symm.trans answered)
    have listed : c ∈ answers.filterMap id := List.mem_filterMap.2 ⟨some c, mem, rfl⟩
    have found := isSome_find?_of_mem listed
    rwa [site_of_component? component] at found

end PropOrder
