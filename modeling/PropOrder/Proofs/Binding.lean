import PropOrder.Binding
import PropOrder.Proofs.WellFormed

/-!
# Bindings of a well-formed program

What a name stands for in a well-formed program is a site of the program or nothing. The search
can fail for one reason only: the root of the program holds a single node where a program has its
list of statements, and the search gets as far as that.
-/

namespace PropOrder

namespace Site
variable {source : SourceText} {r s : Site} {name : String}

/-- A value that is nothing or a site of a walk. -/
def InWalk (r : Site) (v : Value) : Prop := v = .null ∨ ∃ s ∈ r.walk, v = .node s

theorem inWalk_nodeField (wf : r.node.WellFormed source) (hs : s ∈ r.walk)
    (hn : nodeField name = true) : InWalk r (s.get name) := by
  rcases get_nodeField (wellFormed_of_mem_walk wf s hs) hn with hg | ⟨c, mem, hg⟩
  · exact .inl hg
  · exact .inr ⟨c, mem_walk_of_mem_children hs mem, hg⟩

theorem inWalk_get {k : Option String} (wf : r.node.WellFormed source) (hs : s ∈ r.walk)
    (hc : contentOf s.kind name = some (.node k)) : InWalk r (s.get name) := by
  rcases get_node (wellFormed_of_mem_walk wf s hs) hc with hg | ⟨c, mem, hg, -⟩
  · exact .inl hg
  · exact .inr ⟨c, mem_walk_of_mem_children hs mem, hg⟩

theorem inWalk_of_getD {v? : Option Value} (h : ∀ v ∈ v?, InWalk r v) :
    InWalk r (v?.getD .null) := by
  cases v? with
  | none => exact .inl rfl
  | some v => exact h v rfl

/-- The site that a value holds, where one can be looked for. -/
theorem InWalk.site? {v : Value} (h : InWalk r v) :
    ∃ s?, v.site? = .ok s? ∧ ∀ s ∈ s?, s ∈ r.walk := by
  rcases h with rfl | ⟨s, hs, rfl⟩
  · exact ⟨none, rfl, by simp⟩
  · exact ⟨some s, rfl, by simpa using hs⟩

/-- A list of sites of a walk. -/
def ListInWalk (r : Site) (es : List (Entry Site)) : Prop :=
  ∃ sites : List Site, es = sites.map .node ∧ ∀ s ∈ sites, s ∈ r.walk

theorem listInWalk_get (hs : s ∈ r.walk) (name : String) :
    ListInWalk r ((s.get name).nodeList.map .node) :=
  ⟨_, rfl, fun _ hc => mem_walk_of_mem_children hs (mem_of_get_nodeList hc)⟩

theorem returns_items_listField (wf : r.node.WellFormed source) (hs : s ∈ r.walk)
    (hn : listField name = true) : Returns (s.get name).items (ListInWalk r) :=
  ⟨_, items_listField (wellFormed_of_mem_walk wf s hs) hn, listInWalk_get hs name⟩

/-! ### Unwrapping -/

theorem inWalk_unwrapClaim (wf : r.node.WellFormed source) (hs : s ∈ r.walk) :
    InWalk r s.unwrapClaim := by
  unfold unwrapClaim
  split
  · next claim =>
    have content : contentOf s.kind "expression" = some .child := by
      rw [eq_of_beq claim]
      rfl
    exact inWalk_get wf hs content
  · exact .inr ⟨s, hs, rfl⟩

theorem returns_unwrapClaim? {v : Value} (wf : r.node.WellFormed source) (hv : InWalk r v) :
    Returns (unwrapClaim? v) (InWalk r) := by
  obtain ⟨s?, hsite, hs⟩ := hv.site?
  rw [unwrapClaim?, hsite]
  cases s? with
  | none => exact ⟨.null, rfl, .inl rfl⟩
  | some s => exact ⟨s.unwrapClaim, rfl, inWalk_unwrapClaim wf (hs s rfl)⟩

/-! ### Declarations -/

/-- What declarations bind a name to: nothing yet, or a value of the program. -/
abbrev AnswerInWalk (r : Site) (v? : Option Value) : Prop := ∀ v ∈ v?, InWalk r v

theorem answerInWalk_some {v : Value} (h : InWalk r v) : AnswerInWalk r (some v) := by
  rintro _ ⟨⟩
  exact h

theorem returns_none : Returns (pure none) (AnswerInWalk r) := by
  refine ⟨none, rfl, ?_⟩
  rintro _ ⟨⟩

/-- The first answer among those of readings that fail for one reason at most. -/
theorem returnsUnless_firstAnswer {α β : Type} {f : α → Except Fault (Option β)} {P : β → Prop}
    {why : Fault → Prop} {l : List α}
    (h : ∀ a ∈ l, ReturnsUnless why (f a) fun b? => ∀ b ∈ b?, P b) :
    ReturnsUnless why (firstAnswer f l) fun b? => ∀ b ∈ b?, P b := by
  induction l with
  | nil =>
    refine .inl ⟨none, rfl, ?_⟩
    rintro _ ⟨⟩
  | cons a l ih =>
    refine (h a (List.mem_cons_self ..)).bind fun b? hb => ?_
    cases b? with
    | none => exact ih fun a ha => h a (List.mem_cons_of_mem _ ha)
    | some b => exact .inl ⟨some b, rfl, hb⟩

theorem returns_firstAnswer {α β : Type} {f : α → Except Fault (Option β)} {P : β → Prop}
    {l : List α} (h : ∀ a ∈ l, Returns (f a) fun b? => ∀ b ∈ b?, P b) :
    Returns (firstAnswer f l) fun b? => ∀ b ∈ b?, P b := by
  have answer : ReturnsUnless (fun _ => False) (firstAnswer f l) fun b? => ∀ b ∈ b?, P b :=
    returnsUnless_firstAnswer fun a ha => .inl (h a ha)
  exact answer.returns fun _ => id

theorem returns_bindingOfDeclarator (wf : r.node.WellFormed source) (name : Value)
    (hs : s ∈ r.walk) : Returns (bindingOfDeclarator name (.node s)) (AnswerInWalk r) := by
  show Returns ((s.get "id").site? >>= _) _
  refine returns_bind_child (wellFormed_of_mem_walk wf s hs) rfl returns_none fun target _ => ?_
  by_cases named : (target.isIdentifier && (target.get "name").eqv name) = true
  · simp only [named, if_true]
    have init : InWalk r (s.get "init") := inWalk_nodeField wf hs rfl
    exact (returns_unwrapClaim? wf init).bind fun v hv => .pure (answerInWalk_some hv)
  · simp only [named]
    exact returns_none

theorem returns_bindingOfDeclaration (wf : r.node.WellFormed source) (name : Value)
    (hs : s ∈ r.walk) : Returns (bindingOfDeclaration name s) (AnswerInWalk r) := by
  unfold bindingOfDeclaration
  split
  · refine (returns_items_listField wf hs rfl).bind ?_
    rintro _ ⟨declarators, rfl, walk⟩
    refine returns_firstAnswer fun e he => ?_
    obtain ⟨declarator, hd, rfl⟩ := List.mem_map.1 he
    exact returns_bindingOfDeclarator wf name (walk declarator hd)
  split
  · refine returns_bind_child (wellFormed_of_mem_walk wf s hs) rfl returns_none fun id _ => ?_
    by_cases named : ((id.get "name").eqv name) = true
    · have right : InWalk r (s.get "right") := inWalk_nodeField wf hs rfl
      simp only [named, if_true]
      exact .pure (answerInWalk_some right)
    · simp only [named]
      exact returns_none
  · exact returns_none

theorem returns_bindingOfStatement (wf : r.node.WellFormed source) (name : Value)
    (hs : s ∈ r.walk) : Returns (bindingOfStatement name (.node s)) (AnswerInWalk r) := by
  show Returns (if s.isExport then _ else _) _
  split
  · exact returns_bind_child (wellFormed_of_mem_walk wf s hs) rfl returns_none fun d hd =>
      returns_bindingOfDeclaration wf name (mem_walk_of_mem_children hs hd)
  · exact returns_bindingOfDeclaration wf name hs

theorem returnsUnless_bindingInList {L : Value} {why : Fault → Prop}
    (wf : r.node.WellFormed source) (name : Value)
    (hL : ReturnsUnless why L.items (ListInWalk r)) :
    ReturnsUnless why (bindingInList name L) (AnswerInWalk r) := by
  refine hL.bind ?_
  rintro _ ⟨statements, rfl, walk⟩
  refine .inl (returns_firstAnswer fun e he => ?_)
  obtain ⟨s, hs, rfl⟩ := List.mem_map.1 he
  exact returns_bindingOfStatement wf name (walk s hs)

/-! ### Statement lists -/

theorem returns_items_of_statementList? {L : Value} (wf : r.node.WellFormed source)
    (hs : s ∈ r.walk) (hL : s.statementList? = some L) : Returns L.items (ListInWalk r) := by
  have wfs := wellFormed_of_mem_walk wf s hs
  unfold statementList? at hL
  split at hL
  · next case =>
    obtain rfl := Option.some.inj hL
    have content : contentOf s.kind "consequent" = some .list := by
      rw [eq_of_beq case]
      rfl
    exact ⟨_, items_get wfs content, listInWalk_get hs _⟩
  · split at hL
    · next es hg =>
      obtain rfl := Option.some.inj hL
      refine ⟨es, rfl, ?_⟩
      rw [many_get wfs hg]
      exact listInWalk_get hs _
    · cases hL

/-- The root of a program holds a single node where a program has its list of statements. -/
def SingleBody (r : Site) : Prop := ∃ body, r.get "body" = .node body

/-- A program has a list of statements. -/
theorem not_singleBody_of_kind (wf : r.node.WellFormed source) (kind : r.kind = "Program") :
    ¬ SingleBody r := by
  have content : contentOf r.kind "body" = some .list := by rw [kind]; rfl
  rintro ⟨b, hb⟩
  rcases (get_nodes wf content).1 with hg | hg
  · rw [hg] at hb
    cases hb
  · rw [hb] at hg
    cases hg

/-- A body that is no list of statements is the reason for a fault. -/
def BodyFault (r : Site) (fault : Fault) : Prop := fault = .notAList ∧ SingleBody r

/-- The statements of a program, where it has a list of them. -/
theorem returnsUnless_items_body (wf : r.node.WellFormed source) :
    ReturnsUnless (BodyFault r) (r.get "body").items
      fun es => es = (r.get "body").nodeList.map .node := by
  -- every kind has a node or a list as its body, if it has a body
  have bodies : fieldsAre (fun c => c.isNode || c.isList) "body" = true := rfl
  cases hc : contentOf r.kind "body" with
  | none =>
    rw [get_of_contentOf_eq_none wf hc]
    exact .inl ⟨[], rfl, rfl⟩
  | some content =>
    have hsort := contentOf_of_fieldsAre bodies hc
    cases content with
    | node k =>
      rcases get_node wf hc with hg | ⟨body, -, hg, -⟩
      · rw [hg]
        exact .inl ⟨[], rfl, rfl⟩
      · exact .inr ⟨.notAList, ⟨rfl, body, hg⟩, by rw [hg]; rfl⟩
    | nodes k => exact .inl ⟨_, items_get wf hc, rfl⟩
    | scalar => cases hsort
    | text => cases hsort
    | spelling => cases hsort
    | flag => cases hsort

/-- What a name stands for at a site of a well-formed program is nothing or a site of the program,
if the search can be ended. -/
theorem returnsUnless_binding (top : r = root r.node) (wf : r.node.WellFormed source)
    (name : Value) (hs : s ∈ r.walk) :
    ReturnsUnless (BodyFault r) (binding r name (some s)) (InWalk r) := by
  refine ReturnsUnless.bind (returnsUnless_firstAnswer fun L hL => ?_) fun v? hv =>
    .inl (.pure (inWalk_of_getD hv))
  refine returnsUnless_bindingInList wf name ?_
  -- the lists around the site are searched first, the statements of the program last
  rcases List.mem_append.1 hL with around | body
  · obtain ⟨a, ha, hL⟩ := List.mem_filterMap.1 around
    have inRoot : a ∈ (root r.node).walk :=
      mem_walk_of_mem_lineage (by rw [← top]; exact hs) a (List.dropLast_subset _ ha)
    rw [← top] at inRoot
    exact .inl (returns_items_of_statementList? wf inRoot hL)
  · rw [List.mem_singleton.1 body]
    refine (returnsUnless_items_body wf).weaken ?_
    rintro _ rfl
    exact listInWalk_get (mem_walk_self r) _

end Site

end PropOrder
