import Mathlib.Logic.Relation
import PropOrder.Proofs.Component
import PropOrder.Proofs.Surface.Boundary

/-!
# The markup of a component

An expression gives the markup that it is, or that an expression gives to which it hands on
(`HandsOn`): a branch, an operand, what stands under a type claim (`rendersMarkup_eq_true_iff`). No
such step leaves the function around the expression, and neither does the return surface of a
function, so that only markup directly under a function makes it a component
(`isFunctionComponent_eq_true_iff`).
-/

namespace PropOrder

namespace Site
variable {source : SourceText} {n : Node} {s c j f : Site} {name : String}

/-! ### Steps of an expression -/

/-- An expression hands on to the branches of a condition, to the operands of a logical expression
and to the expression of a type claim. -/
inductive HandsOn (s c : Site) : Prop
  | consequent (conditional : s.kind = "ConditionalExpression")
    (held : s.get "consequent" = .node c)
  | alternate (conditional : s.kind = "ConditionalExpression") (held : s.get "alternate" = .node c)
  | left (logical : s.kind = "LogicalExpression") (held : s.get "left" = .node c)
  | right (logical : s.kind = "LogicalExpression") (held : s.get "right" = .node c)
  | claimed (claim : s.isTypeClaim = true) (held : s.get "expression" = .node c)

namespace HandsOn

theorem mem_children (h : s.HandsOn c) : c ∈ s.children := by
  cases h with
  | consequent _ held => exact mem_children_of_get held
  | alternate _ held => exact mem_children_of_get held
  | left _ held => exact mem_children_of_get held
  | right _ held => exact mem_children_of_get held
  | claimed _ held => exact mem_children_of_get held

/-- What hands on is no function. -/
theorem isFunctionLike (h : s.HandsOn c) : s.isFunctionLike = false := by
  cases h with
  | consequent conditional _ => exact isFunctionLike_eq_false conditional (by decide)
  | alternate conditional _ => exact isFunctionLike_eq_false conditional (by decide)
  | left logical _ => exact isFunctionLike_eq_false logical (by decide)
  | right logical _ => exact isFunctionLike_eq_false logical (by decide)
  | claimed claim _ =>
    rw [isTypeClaim, Bool.or_eq_true, Bool.or_eq_true, beq_iff_eq, beq_iff_eq, beq_iff_eq] at claim
    rcases claim with (h | h) | h
    · exact isFunctionLike_eq_false h (by decide)
    · exact isFunctionLike_eq_false h (by decide)
    · exact isFunctionLike_eq_false h (by decide)

theorem conditional_iff (conditional : s.kind = "ConditionalExpression") :
    s.HandsOn c ↔ s.get "consequent" = .node c ∨ s.get "alternate" = .node c := by
  constructor
  · intro h
    cases h with
    | consequent _ held => exact .inl held
    | alternate _ held => exact .inr held
    | left logical _ => simp [conditional] at logical
    | right logical _ => simp [conditional] at logical
    | claimed claim _ => simp [isTypeClaim, conditional] at claim
  · rintro (held | held)
    · exact .consequent conditional held
    · exact .alternate conditional held

theorem logical_iff (logical : s.kind = "LogicalExpression") :
    s.HandsOn c ↔ s.get "left" = .node c ∨ s.get "right" = .node c := by
  constructor
  · intro h
    cases h with
    | consequent conditional _ => simp [logical] at conditional
    | alternate conditional _ => simp [logical] at conditional
    | left _ held => exact .inl held
    | right _ held => exact .inr held
    | claimed claim _ => simp [isTypeClaim, logical] at claim
  · rintro (held | held)
    · exact .left logical held
    · exact .right logical held

theorem claim_iff (claim : s.isTypeClaim = true) :
    s.HandsOn c ↔ s.get "expression" = .node c := by
  refine ⟨fun h => ?_, .claimed claim⟩
  cases h with
  | consequent conditional _ => simp [isTypeClaim, conditional] at claim
  | alternate conditional _ => simp [isTypeClaim, conditional] at claim
  | left logical _ => simp [isTypeClaim, logical] at claim
  | right logical _ => simp [isTypeClaim, logical] at claim
  | claimed _ held => exact held

end HandsOn

/-- The steps of an expression directly under a function stay directly under the function. -/
theorem directlyUnder_of_handsOn (steps : Relation.ReflTransGen HandsOn s j)
    (under : s.DirectlyUnder f) : j.DirectlyUnder f := by
  induction steps with
  | refl => exact under
  | tail _ step ih => exact ih.child step.isFunctionLike step.mem_children

theorem mem_walk_of_handsOn {r : Site} (steps : Relation.ReflTransGen HandsOn s j)
    (hs : s ∈ r.walk) : j ∈ r.walk := by
  induction steps with
  | refl => exact hs
  | tail _ step ih => exact mem_walk_of_mem_children ih step.mem_children

/-! ### Markup that an expression gives -/

/-- An expression gives markup, in some number of steps. -/
def Gives (s j : Site) : Prop := j.isMarkup = true ∧ Relation.ReflTransGen HandsOn s j

/-- The first step of an expression that gives markup. -/
theorem exists_gives_iff :
    (∃ j, s.Gives j) ↔ s.isMarkup = true ∨ ∃ c, s.HandsOn c ∧ ∃ j, c.Gives j := by
  constructor
  · rintro ⟨j, markup, steps⟩
    rcases steps.cases_head with rfl | ⟨c, first, rest⟩
    · exact .inl markup
    · exact .inr ⟨c, first, j, markup, rest⟩
  · rintro (markup | ⟨c, first, j, markup, rest⟩)
    · exact ⟨s, markup, .refl⟩
    · exact ⟨j, markup, rest.head first⟩

theorem either_eq_true_iff {m k : Except Fault Bool} (hm : Succeeds m) :
    (do if ← m then return true else k) = .ok true ↔ m = .ok true ∨ k = .ok true := by
  obtain ⟨b, rfl, -⟩ := hm
  cases b with
  | true => simp
  | false => simp

theorem rendersMarkup?_eq_true_iff {k : Option String} (wf : s.node.WellFormed source)
    (hc : contentOf s.kind name = some (.node k))
    (ih : ∀ c ∈ s.children, (c.rendersMarkup = .ok true ↔ ∃ j, c.Gives j)) :
    rendersMarkup? (s.get name) = .ok true ↔ ∃ c, s.get name = .node c ∧ ∃ j, c.Gives j := by
  rcases get_node wf hc with hg | ⟨c, mem, hg, -⟩
  · rw [hg]
    simp [rendersMarkup?, Value.site?]
  · rw [hg]
    simp only [Slot.one.injEq, Entry.node.injEq, exists_eq_left']
    exact ih c mem

/-- An expression is found to give markup exactly if it gives some in steps. -/
theorem rendersMarkup_eq_true_iff {s : Site} (wf : s.node.WellFormed source) :
    s.rendersMarkup = .ok true ↔ ∃ j, s.Gives j := by
  have ih : ∀ c ∈ s.children, (c.rendersMarkup = .ok true ↔ ∃ j, c.Gives j) := fun c hc =>
    rendersMarkup_eq_true_iff (wellFormed_of_mem_children wf hc)
  have succeeds : ∀ {a : String}, contentOf s.kind a = some .child →
      Succeeds (rendersMarkup? (s.get a)) := fun held =>
    succeeds_rendersMarkup?_get wf held fun c hc =>
      succeeds_rendersMarkup (wellFormed_of_mem_children wf hc)
  rw [exists_gives_iff, rendersMarkup_eq]
  split
  · next markup => simp [markup]
  next plain =>
  rw [or_iff_right plain]
  split
  · next conditional =>
    have hk : s.kind = "ConditionalExpression" := eq_of_beq conditional
    have consequent : contentOf s.kind "consequent" = some .child := by rw [hk]; rfl
    have alternate : contentOf s.kind "alternate" = some .child := by rw [hk]; rfl
    rw [either_eq_true_iff (succeeds consequent), rendersMarkup?_eq_true_iff wf consequent ih,
      rendersMarkup?_eq_true_iff wf alternate ih]
    simp only [HandsOn.conditional_iff hk, or_and_right, exists_or]
  split
  · next logical =>
    have hk : s.kind = "LogicalExpression" := eq_of_beq logical
    have left : contentOf s.kind "left" = some .child := by rw [hk]; rfl
    have right : contentOf s.kind "right" = some .child := by rw [hk]; rfl
    rw [either_eq_true_iff (succeeds left), rendersMarkup?_eq_true_iff wf left ih,
      rendersMarkup?_eq_true_iff wf right ih]
    simp only [HandsOn.logical_iff hk, or_and_right, exists_or]
  split
  · next claim =>
    rw [rendersMarkup?_eq_true_iff wf (contentOf_expression_of_isTypeClaim claim) ih]
    simp only [HandsOn.claim_iff claim]
  · next other₁ other₂ other₃ =>
    have stuck : ∀ c, ¬ s.HandsOn c := by
      rintro c (⟨kind, -⟩ | ⟨kind, -⟩ | ⟨kind, -⟩ | ⟨kind, -⟩ | ⟨claim, -⟩)
      · exact other₁ (beq_iff_eq.2 kind)
      · exact other₁ (beq_iff_eq.2 kind)
      · exact other₂ (beq_iff_eq.2 kind)
      · exact other₂ (beq_iff_eq.2 kind)
      · exact other₃ claim
    simp [stuck]
termination_by sizeOf s.node
decreasing_by exact sizeOf_lt_of_mem_children hc

/-! ### Markup that a function gives -/

/-- What an item of a return surface hands out: a return its argument, and any other node itself. -/
def outcome (s : Site) : Value :=
  if s.kind == "ReturnStatement" then s.get "argument" else .node s

theorem returnsMarkup_eq_true_iff (wf : s.node.WellFormed source) :
    returnsMarkup (.node s) = .ok true ↔ ∃ e, s.outcome = .node e ∧ ∃ j, e.Gives j := by
  show (if s.kind == "ReturnStatement" then _ else _) = _ ↔ _
  rw [outcome]
  split
  · next returns =>
    have argument : contentOf s.kind "argument" = some .child := by
      rw [eq_of_beq returns]
      rfl
    exact rendersMarkup?_eq_true_iff wf argument fun c hc =>
      rendersMarkup_eq_true_iff (wellFormed_of_mem_children wf hc)
  · simp only [Slot.one.injEq, Entry.node.injEq, exists_eq_left']
    exact rendersMarkup_eq_true_iff wf

/-- Markup directly under a function that an item of its return surface gives. -/
structure Renders (scopes : List Scope) (f j : Site) : Prop where
  under : j.DirectlyUnder f
  reached : ∃ surface item e, f.returnSurface scopes = .ok (some surface) ∧ .node item ∈ surface ∧
    item.outcome = .node e ∧ e.Gives j

/-- What an item directly under a function hands out is directly under the function. -/
theorem DirectlyUnder.outcome {e : Site} (under : s.DirectlyUnder f) (hs : s ∈ (root n).walk)
    (he : s.outcome = .node e) : e ∈ (root n).walk ∧ e.DirectlyUnder f := by
  rw [Site.outcome] at he
  split at he
  · next returns =>
    have plain := isFunctionLike_eq_false (eq_of_beq returns) (by decide)
    have child := mem_children_of_get he
    exact ⟨mem_walk_of_mem_children hs child, under.child plain child⟩
  · cases he
    exact ⟨hs, under⟩

theorem isMethodValue_eq_true_iff :
    f.isMethodValue = true ↔ ∃ p ∈ f.parent?, p.kind = "MethodDefinition" := by
  simp [isMethodValue, Option.any_eq_true]

/-- A function is found to be a component exactly if it is no method of a class and renders
markup. -/
theorem isFunctionComponent_eq_true_iff (wf : n.WellFormed source) (hf : f ∈ (root n).walk)
    (function : f.isFunctionLike = true) :
    f.isFunctionComponent (Scope.opened (root n).walk) = .ok true ↔
      (∀ p ∈ f.parent?, p.kind ≠ "MethodDefinition") ∧
        ∃ j ∈ (root n).walk, Renders (Scope.opened (root n).walk) f j := by
  have wfs := wellFormed_of_mem_walk (r := root n) wf
  obtain ⟨surface, found, inside⟩ := returns_returnSurface (r := root n) wf hf function
  obtain ⟨surface', found', under⟩ := surfaceUnder_returnSurface wf hf function
  obtain rfl := Except.ok.inj (found.symm.trans found')
  have rule : f.isFunctionComponent (Scope.opened (root n).walk) =
      if f.isMethodValue then .ok false else (surface.getD []).anyM returnsMarkup := by
    rw [isFunctionComponent, function, found]
    cases f.isMethodValue with
    | true => rfl
    | false => rfl
  rw [rule]
  by_cases method : f.isMethodValue = true
  · obtain ⟨p, hp, kind⟩ := isMethodValue_eq_true_iff.1 method
    rw [if_pos method]
    constructor
    · rintro ⟨⟩
    · rintro ⟨free, -⟩
      exact absurd kind (free p hp)
  have free : ∀ p ∈ f.parent?, p.kind ≠ "MethodDefinition" := fun p hp kind =>
    method (isMethodValue_eq_true_iff.2 ⟨p, hp, kind⟩)
  rw [if_neg method, and_iff_right free, anyM_eq_true_iff]
  · constructor
    · rintro ⟨v, hv, gives⟩
      cases surface with
      | none => cases hv
      | some values =>
        obtain ⟨x, hx, rfl⟩ := inside v hv
        obtain ⟨e, he, j, gives⟩ := (returnsMarkup_eq_true_iff (wfs x hx)).1 gives
        obtain ⟨y, hy, underX⟩ := under values rfl _ hv
        cases hy
        obtain ⟨walk, underE⟩ := underX.outcome hx he
        exact ⟨j, mem_walk_of_handsOn gives.2 walk, directlyUnder_of_handsOn gives.2 underE, values,
          x, e, found, hv, he, gives⟩
    · rintro ⟨j, -, -, values, x, e, given, hv, he, gives⟩
      obtain rfl := Except.ok.inj (found.symm.trans given)
      obtain ⟨y, hy, same⟩ := inside _ hv
      cases same
      exact ⟨_, hv, (returnsMarkup_eq_true_iff (wfs x hy)).2 ⟨e, he, j, gives⟩⟩
  · intro v hv
    obtain ⟨x, hx, rfl⟩ := inside v hv
    exact succeeds_returnsMarkup (wfs x hx)

/-- A function is a component exactly if it is found to be a component of that sort. -/
theorem exists_component?_iff (wf : n.WellFormed source) (hf : f ∈ (root n).walk)
    (function : f.isFunctionLike = true) :
    (∃ c, f.component? (Scope.opened (root n).walk) = .ok (some c)) ↔
      f.isFunctionComponent (Scope.opened (root n).walk) = .ok true := by
  obtain ⟨name, hname, -⟩ := succeeds_componentName wf hf
  obtain ⟨answer, hanswer, -⟩ := succeeds_isFunctionComponent (r := root n) wf hf
  have noClass : f.isClassComponent = .ok false := by
    rcases isFunctionLike_iff.1 function with h | h | h
    all_goals
      rw [isClassComponent, isClass, h]
      rfl
  rw [component?, noClass, hanswer, hname]
  cases answer with
  | true => simp
  | false => simp

/-- **In every program that is converted, a function is among the components exactly if it is not
the child of a method of a class and an item of its return surface gives markup that lies directly
under the function. Markup of a function inside does not count.** -/
theorem function_isComponent_iff {tree : Concrete}
    (converted : Conversion.convert source tree = .ok n) : ∃ scopes components,
      Scope.all (root n) = .ok scopes ∧ Component.all (root n) scopes = .ok components ∧
        ∀ f ∈ (root n).walk, f.isFunctionLike = true →
          ((Component.find? components f).isSome = true ↔
            (∀ p ∈ f.parent?, p.kind ≠ "MethodDefinition") ∧
              ∃ j ∈ (root n).walk, Renders scopes f j) := by
  have wf := Conversion.convert_wellFormed converted
  obtain ⟨components, all, -⟩ := succeeds_component_all wf
  refine ⟨_, components, Scope.all_eq wf, all, fun f hf function => ?_⟩
  rw [isSome_find?_iff all hf, exists_component?_iff wf hf function,
    isFunctionComponent_eq_true_iff wf hf function]

/-- The source `function f(){return function(){return a?<b/>:c}}`. -/
def innerMarkupSource : SourceText := .ofString "function f(){return function(){return a?<b/>:c}}"

/-- The concrete tree of `innerMarkupSource`. -/
def innerMarkupTree : Concrete :=
  .mk ⟨true, "function_declaration", "", ⟨0, 48⟩⟩ [
    .mk ⟨true, "identifier", "name", ⟨9, 10⟩⟩ [],
    .mk ⟨true, "formal_parameters", "parameters", ⟨10, 12⟩⟩ [],
    .mk ⟨true, "statement_block", "body", ⟨12, 48⟩⟩ [
      .mk ⟨true, "return_statement", "", ⟨13, 47⟩⟩ [
        .mk ⟨true, "function_expression", "", ⟨20, 47⟩⟩ [
          .mk ⟨true, "formal_parameters", "parameters", ⟨28, 30⟩⟩ [],
          .mk ⟨true, "statement_block", "body", ⟨30, 47⟩⟩ [
            .mk ⟨true, "return_statement", "", ⟨31, 46⟩⟩ [
              .mk ⟨true, "ternary_expression", "", ⟨38, 46⟩⟩ [
                .mk ⟨true, "identifier", "condition", ⟨38, 39⟩⟩ [],
                .mk ⟨true, "jsx_self_closing_element", "consequence", ⟨40, 44⟩⟩ [
                  .mk ⟨true, "identifier", "name", ⟨41, 42⟩⟩ []],
                .mk ⟨true, "identifier", "alternative", ⟨45, 46⟩⟩ []]]]]]]]

/-- The inner function of `innerMarkupTree` is a component, and the outer one is not. -/
theorem innerMarkupTree_isComponent : ∃ (n : Node) (scopes : List Scope)
    (components : List Component) (g j : Site),
    Conversion.convert innerMarkupSource innerMarkupTree = .ok n ∧
      Scope.all (root n) = .ok scopes ∧ Component.all (root n) scopes = .ok components ∧
      g.DirectlyUnder (root n) ∧ Renders scopes g j ∧
      (Component.find? components g).isSome = true ∧
      (Component.find? components (root n)).isSome = false := by
  obtain ⟨n, converted⟩ : ∃ n,
    Conversion.convert innerMarkupSource innerMarkupTree = .ok n := ⟨_, rfl⟩
  -- the fields on the way from the outer function to the markup
  obtain ⟨b, p, g, body, r, e, j, hb, hp, hg, hbody, hr, he, hj⟩ : ∃ b p g body r e j,
      (root n).get "body" = .node b ∧ b.get "body" = .nodes [p] ∧ p.get "argument" = .node g ∧
      g.get "body" = .node body ∧ body.get "body" = .nodes [r] ∧ r.get "argument" = .node e ∧
      e.get "consequent" = .node j := by
    cases converted
    exact ⟨_, _, _, _, _, _, _, rfl, rfl, rfl, rfl, rfl, rfl, rfl⟩
  have kinds : b.isBlock = true ∧ p.kind = "ReturnStatement" ∧
      g.isFunctionLike = true ∧ body.isBlock = true ∧ r.kind = "ReturnStatement" ∧
      e.kind = "ConditionalExpression" ∧ j.isMarkup = true := by
    cases converted
    cases hb
    cases hp
    cases hg
    cases hbody
    cases hr
    cases he
    cases hj
    exact ⟨rfl, rfl, rfl, rfl, rfl, rfl, rfl⟩
  obtain ⟨block, returnsG, function, block', returns, conditional, markup⟩ := kinds
  have wf := Conversion.convert_wellFormed converted
  have memP : p ∈ (b.get "body").nodeList := by
    rw [hp]
    exact List.mem_singleton_self p
  have memR : r ∈ (body.get "body").nodeList := by
    rw [hr]
    exact List.mem_singleton_self r
  have inP := mem_children_of_get hg
  have inG := mem_children_of_get hbody
  have walkG : g ∈ (root n).walk :=
    mem_walk_of_mem_children (mem_walk_of_mem_children (mem_walk_of_mem_children (mem_walk_self _)
      (mem_children_of_get hb)) (mem_of_get_nodeList memP)) inP
  have walkR : r ∈ (root n).walk :=
    mem_walk_of_mem_children (mem_walk_of_mem_children walkG inG) (mem_of_get_nodeList memR)
  have plainP := isFunctionLike_eq_false returnsG (by decide)
  have underG := (directlyUnder_of_mem_body hb block memP).child plainP inP
  have underR := directlyUnder_of_mem_body hbody block' memR
  have handedOut : r.outcome = .node e := by
    rw [outcome, returns]
    exact he
  obtain ⟨walkE, underE⟩ := underR.outcome walkR handedOut
  have steps : Relation.ReflTransGen HandsOn e j := .single (.consequent conditional hj)
  obtain ⟨scopes, components, hs, hc, registered⟩ := function_isComponent_iff converted
  obtain rfl := Except.ok.inj (hs.symm.trans (Scope.all_eq wf))
  have renders : Renders (Scope.opened (root n).walk) g j := by
    refine ⟨directlyUnder_of_handsOn steps underE, ?_⟩
    have candidate := mem_allGiven_of_mem_body walkG function hbody block' returns memR
    obtain ⟨surface, found, values, rfl, listed⟩ := returnSurface_of_mem_follow wf walkG function
      candidate (mem_follow_self walkR walkG underR returns)
    exact ⟨values, r, e, found, listed, handedOut, markup, steps⟩
  have free : ∀ q ∈ g.parent?, q.kind ≠ "MethodDefinition" := by
    rw [parent?_of_mem_children inP]
    rintro q ⟨⟩
    rw [returnsG]
    decide
  have other : (do
      let components ← Component.all (root n) (← Scope.all (root n))
      return (Component.find? components (root n)).isSome).toOption = some false := by
    cases converted
    decide +kernel
  rw [hs, ok_bind, hc, ok_bind] at other
  exact ⟨n, _, components, g, j, converted, hs, hc, underG, renders,
    (registered g walkG function).2 ⟨free, j, mem_walk_of_handsOn steps walkE, renders⟩,
    Option.some.inj other⟩

end Site

end PropOrder
