import PropOrder.Proofs.Keys
import PropOrder.Proofs.Surface.Boundary
import PropOrder.TrailingReturn

/-!
# The trailing return is on the return surface

The search from the back looks at the statements of a body and dives into the last cases of
choices; the return surface is found forwards, from candidates. What the search ends at is a return
that stands in the body or in a case of a choice under it (`Ends`). Such a return is a candidate of
the function itself, or its choice is one and leads to it, at any depth of choices in cases.
-/

namespace PropOrder

namespace Site
variable {source : SourceText} {n : Node} {f r s m body owner : Site} {field : String}
  {statements : List Site}

/-! ### The search from the back -/

/-- A return that stands in a list of statements, or in a case of a choice in the list, and so on
in the list of that case. -/
inductive Ends (r : Site) : List Site → Prop
  | statement {statements : List Site} (returns : r.kind = "ReturnStatement")
    (mem : r ∈ statements) : Ends r statements
  | case {statements : List Site} {q case : Site} (switch : q.kind = "SwitchStatement")
    (mem : q ∈ statements) (held : case ∈ (q.get "cases").nodeList)
    (inside : Ends r (case.get "consequent").nodeList) : Ends r statements

theorem firstDeciding_nodes (sites : List Site) :
    firstDeciding (sites.map .node) = .ok (sites.find? isDeciding) := by
  induction sites with
  | nil => rfl
  | cons s sites ih =>
    show (if s.isDeciding then Except.ok (some s) else firstDeciding (sites.map .node)) = _
    rw [ih, List.find?_cons]
    cases s.isDeciding with
    | true => rfl
    | false => rfl

theorem lastDeciding_eq {k : Option String} (wf : owner.node.WellFormed source)
    (hc : contentOf owner.kind field = some (.nodes k)) :
    owner.lastDeciding field = .ok ((owner.get field).nodeList.reverse.find? isDeciding) := by
  rw [lastDeciding, items_get wf hc, ok_bind, ← List.map_reverse, firstDeciding_nodes]

/-- The rule by which the search goes on. -/
theorem trailingIn_eq (owner : Site) (field : String) : owner.trailingIn field =
    owner.lastDeciding field >>= fun s? => s?.elim (.ok none) fun s =>
      if s.kind == "ReturnStatement" then .ok (some s)
      else (s.get "cases").lastNode >>= fun case => case.trailingIn "consequent" := by
  rw [trailingIn]
  split
  · next h => rw [h]; rfl
  · next h => rw [h]; rfl
  · next s h =>
    rw [h, ok_bind, Option.elim_some]
    split
    · rfl
    · split
      · next h' => rw [h']; rfl
      · next h' => rw [h']; rfl

/-- A choice that the search ends at has a last case. -/
theorem returns_lastNode_cases (wf : s.node.WellFormed source) (switch : s.kind = "SwitchStatement")
    (given : (s.get "cases").truthy = true) :
    Returns (s.get "cases").lastNode fun case => case ∈ (s.get "cases").nodeList := by
  rw [truthy_listField wf rfl, List.isSome_head?] at given
  have cases : (s.get "cases").nodeList ≠ [] := by simpa using given
  refine ⟨(s.get "cases").nodeList.getLast cases, ?_, List.getLast_mem cases⟩
  rw [Value.lastNode, items_get wf (contentOf_cases switch), ok_bind, Value.lastEntry,
    List.getLast?_map, List.getLast?_eq_some_getLast cases]
  rfl

/-- The search of a list comes to an end, and what it finds is a return that the list ends in. -/
theorem returns_trailingIn {owner : Site} {field : String} {k : Option String}
    (wf : owner.node.WellFormed source) (hc : contentOf owner.kind field = some (.nodes k)) :
    Returns (owner.trailingIn field) fun r? => ∀ r ∈ r?, Ends r (owner.get field).nodeList := by
  rw [trailingIn_eq, lastDeciding_eq wf hc, ok_bind]
  cases found : (owner.get field).nodeList.reverse.find? isDeciding with
  | none => exact .pure (by simp)
  | some s =>
    have mem := List.mem_reverse.1 (List.mem_of_find?_eq_some found)
    have decides := List.find?_some found
    rw [isDeciding, Bool.or_eq_true, Bool.and_eq_true, beq_iff_eq, beq_iff_eq] at decides
    rw [Option.elim_some]
    split
    · next returns =>
      refine .pure ?_
      rintro _ ⟨⟩
      exact .statement (eq_of_beq returns) mem
    · next other =>
      obtain ⟨switch, given⟩ := decides.resolve_left (mt beq_iff_eq.2 other)
      have wfs := wellFormed_of_mem_children wf (mem_of_get_nodeList mem)
      refine (returns_lastNode_cases wfs switch given).bind fun case held => ?_
      have wfc := wellFormed_of_mem_children wfs (mem_of_get_nodeList held)
      have content : contentOf case.kind "consequent" = some .list := by
        rw [kind_of_mem_cases wfs switch held]
        rfl
      obtain ⟨r?, answer, ends⟩ := returns_trailingIn wfc content
      exact ⟨r?, answer, fun r hr => .case switch mem held (ends r hr)⟩
termination_by sizeOf owner.node
decreasing_by exact (sizeOf_lt_of_mem_get held).trans (sizeOf_lt_of_mem_get mem)

/-! ### From the end of a list to the surface -/

/-- A return that ends a list of statements directly under a function is a statement of the list, or
a choice directly under the function is followed to it. -/
theorem Ends.cases_of_directlyUnder (wf : n.WellFormed source) (h : Ends r statements)
    (inWalk : ∀ s ∈ statements, s ∈ (root n).walk) (under : ∀ s ∈ statements, s.DirectlyUnder f) :
    (r ∈ (root n).walk ∧ r.DirectlyUnder f ∧ r.kind = "ReturnStatement") ∧
      (r ∈ statements ∨ ∃ q ∈ (root n).walk, q.DirectlyUnder f ∧ q.kind = "SwitchStatement" ∧
        r ∈ q.next) := by
  induction h with
  | statement returns mem => exact ⟨⟨inWalk _ mem, under _ mem, returns⟩, .inl mem⟩
  | @case statements q case switch mem held inside ih =>
    have walk := inWalk q mem
    have wfq := wellFormed_of_mem_walk (r := root n) wf q walk
    have child := mem_of_get_nodeList held
    -- neither the choice nor the case is a function
    have plain := isFunctionLike_eq_false switch (by decide)
    have plain' := isFunctionLike_eq_false (kind_of_mem_cases wfq switch held) (by decide)
    have items : ∀ s ∈ (case.get "consequent").nodeList, s ∈ q.next := by
      intro s hs
      have other : q.isChoice = false ∧ q.isLoop = false := by simp [isChoice, isLoop, switch]
      simp only [next, other, switch, Bool.false_eq_true, if_false, beq_self_eq_true, if_true]
      exact List.mem_flatMap.2 ⟨case, held, hs⟩
    obtain ⟨facts, here | deeper⟩ := ih
      (fun s hs => mem_walk_of_mem_next walk (items s hs))
      (fun s hs => ((under q mem).child plain child).child plain' (mem_of_get_nodeList hs))
    · exact ⟨facts, .inr ⟨q, walk, under q mem, switch, items r here⟩⟩
    · exact ⟨facts, .inr deeper⟩

/-! ### Functions and what holds them -/

/-- A site is a given function, or a method or a property with the function as its value. -/
def Holds (m f : Site) : Prop :=
  m = f ∨ (m.kind = "MethodDefinition" ∨ m.kind = "Property") ∧ m.get "value" = .node f

theorem Holds.returnSurface_eq {scopes : List Scope} (holds : m.Holds f)
    (function : f.isFunctionLike = true) : m.returnSurface scopes = f.returnSurface scopes := by
  rcases holds with rfl | ⟨holder, hv⟩
  · rfl
  · exact returnSurface_of_value holder hv function

theorem returns_statementBody? (hb : f.get "body" = .node body) :
    Returns f.statementBody? fun b? => ∀ b ∈ b?, b = body := by
  cases held : body.get "body" with
  | many es => exact ⟨some body, by simp [statementBody?, hb, held, Value.site?], by simp⟩
  | one e => exact ⟨none, by simp [statementBody?, hb, held, Value.site?], by simp⟩

theorem statementBody?_of_null (hb : s.get "body" = .null) : s.statementBody? = .ok none := by
  rw [statementBody?, hb]
  rfl

/-- The body that is searched is that of the function. -/
theorem Holds.returns_trailingBody? (holds : m.Holds f) (wf : m.node.WellFormed source)
    (function : f.isFunctionLike = true) (hb : f.get "body" = .node body) :
    Returns m.trailingBody? fun b? => ∀ b ∈ b?, b = body := by
  obtain ⟨b?, answer, only⟩ := returns_statementBody? hb
  rcases holds with rfl | ⟨holder, hv⟩
  · have valueless : m.get "value" = .null := by
      refine get_of_contentOf_eq_none wf ?_
      rcases isFunctionLike_iff.1 function with h | h | h
      · rw [h]; rfl
      · rw [h]; rfl
      · rw [h]; rfl
    refine ⟨b?, ?_, only⟩
    rw [trailingBody?, valueless, answer]
    rfl
  · have bodyless : m.get "body" = .null := by
      refine get_of_contentOf_eq_none wf ?_
      rcases holder with h | h
      · rw [h]; rfl
      · rw [h]; rfl
    refine ⟨b?, ?_, only⟩
    rw [trailingBody?, hv, statementBody?_of_null bodyless]
    show (f.statementBody? >>= _) = _
    rw [answer, ok_bind]
    cases b? with
    | none => rfl
    | some b => rfl

/-! ### The two agree -/

/-- **In the program of every concrete tree the trailing return of a function with a body in braces
is looked for without a fault, and so is that of a method or a property with the function as its
value. What is found is a return directly under the function, and it is on the return surface.** -/
theorem trailingReturn_mem_returnSurface {tree : Concrete}
    (converted : Conversion.convert source tree = .ok n) :
    Returns (Scope.all (root n)) fun scopes =>
      ∀ f ∈ (root n).walk, f.isFunctionLike = true →
      ∀ body, f.get "body" = .node body → body.isBlock = true →
      ∀ m ∈ (root n).walk, m.Holds f →
        Returns m.trailingReturn fun r? => ∀ r ∈ r?,
          r.kind = "ReturnStatement" ∧ r.DirectlyUnder f ∧
          Returns (m.returnSurface scopes) fun surface => ∃ values ∈ surface, .node r ∈ values := by
  have wf := Conversion.convert_wellFormed converted
  refine ⟨_, Scope.all_eq wf, fun f hf function body hb block m hm holds => ?_⟩
  have wfm := wellFormed_of_mem_walk (r := root n) wf m hm
  have hbw := mem_walk_of_mem_children hf (mem_children_of_get hb)
  have wfb := wellFormed_of_mem_walk (r := root n) wf body hbw
  refine (holds.returns_trailingBody? wfm function hb).bind fun b? only => ?_
  cases b? with
  | none => exact .pure (by simp)
  | some b =>
    obtain rfl := only b rfl
    obtain ⟨r?, answer, ends⟩ := returns_trailingIn wfb (contentOf_body_of_isBlock block)
    refine ⟨r?, answer, fun r hr => ?_⟩
    have statement : ∀ s ∈ (b.get "body").nodeList, s ∈ (root n).walk ∧ s.DirectlyUnder f := by
      intro s hs
      exact ⟨mem_walk_of_mem_children hbw (mem_of_get_nodeList hs),
        directlyUnder_of_mem_body hb block hs⟩
    obtain ⟨⟨walk, under, returns⟩, place⟩ := (ends r hr).cases_of_directlyUnder wf
      (fun s hs => (statement s hs).1) fun s hs => (statement s hs).2
    refine ⟨returns, under, ?_⟩
    rw [holds.returnSurface_eq function]
    have self := mem_follow_self walk hf under returns
    rcases place with here | ⟨q, hq, underQ, switch, next⟩
    · have candidate := mem_allGiven_of_mem_body hf function hb block returns here
      exact returnSurface_of_mem_follow wf hf function candidate self
    · have closed := isConciseBody_eq_false hb block hbw hq
      have candidate := mem_allGiven_of_switch hf hq underQ switch
      exact returnSurface_of_mem_follow wf hf function candidate
        (mem_follow_of_mem_next closed switch next self)

/-- The source `{m(){switch(a){default:switch(b){default:return}}}}`. -/
def nestedSwitchSource : SourceText :=
  .ofString "{m(){switch(a){default:switch(b){default:return}}}}"

/-- The concrete tree of `nestedSwitchSource`. -/
def nestedSwitchTree : Concrete :=
  .mk ⟨true, "object", "", ⟨0, 51⟩⟩ [
    .mk ⟨true, "method_definition", "", ⟨1, 50⟩⟩ [
      .mk ⟨true, "property_identifier", "name", ⟨1, 2⟩⟩ [],
      .mk ⟨true, "formal_parameters", "parameters", ⟨2, 4⟩⟩ [],
      .mk ⟨true, "statement_block", "body", ⟨4, 50⟩⟩ [
        .mk ⟨true, "switch_statement", "", ⟨5, 49⟩⟩ [
          .mk ⟨true, "identifier", "value", ⟨12, 13⟩⟩ [],
          .mk ⟨true, "switch_body", "body", ⟨14, 49⟩⟩ [
            .mk ⟨true, "switch_default", "", ⟨15, 48⟩⟩ [
              .mk ⟨true, "switch_statement", "body", ⟨23, 48⟩⟩ [
                .mk ⟨true, "identifier", "value", ⟨30, 31⟩⟩ [],
                .mk ⟨true, "switch_body", "body", ⟨32, 48⟩⟩ [
                  .mk ⟨true, "switch_default", "", ⟨33, 47⟩⟩ [
                    .mk ⟨true, "return_statement", "body", ⟨41, 47⟩⟩ []]]]]]]]]]

/-- The return in the last case of a choice that is the last case of another one is found from the
property that holds the function, and it is on the return surface of the property. -/
theorem nestedSwitchTree_trailingReturn : ∃ (n : Node) (scopes : List Scope) (f m r : Site),
    Conversion.convert nestedSwitchSource nestedSwitchTree = .ok n ∧
      Scope.all (root n) = .ok scopes ∧ f ∈ (root n).walk ∧ m.kind = "Property" ∧
      m.get "value" = .node f ∧ m.trailingReturn = .ok (some r) ∧ r.span = ⟨41, 47⟩ ∧
      r.kind = "ReturnStatement" ∧ r.DirectlyUnder f ∧
      Returns (m.returnSurface scopes) fun surface => ∃ values ∈ surface, .node r ∈ values := by
  obtain ⟨n, converted⟩ : ∃ n,
    Conversion.convert nestedSwitchSource nestedSwitchTree = .ok n := ⟨_, rfl⟩
  obtain ⟨m, hm⟩ : ∃ m, (root n).get "properties" = .nodes [m] := by
    cases converted
    exact ⟨_, rfl⟩
  obtain ⟨f, hv⟩ : ∃ f, m.get "value" = .node f := by
    cases converted
    cases hm
    exact ⟨_, rfl⟩
  obtain ⟨body, hb⟩ : ∃ body, f.get "body" = .node body := by
    cases converted
    cases hm
    cases hv
    exact ⟨_, rfl⟩
  have facts : m.kind = "Property" ∧ f.isFunctionLike = true ∧ body.isBlock = true := by
    cases converted
    cases hm
    cases hv
    cases hb
    exact ⟨rfl, rfl, rfl⟩
  obtain ⟨kind, function, block⟩ := facts
  have inObject := mem_children_of_get_nodes hm (List.mem_singleton_self m)
  have walkM := mem_walk_of_mem_children (mem_walk_self _) inObject
  have walkF := mem_walk_of_mem_children walkM (mem_children_of_get hv)
  obtain ⟨scopes, hs, agree⟩ := trailingReturn_mem_returnSurface converted
  obtain ⟨r?, found, onSurface⟩ :=
    agree f walkF function body hb block m walkM (.inr ⟨.inr kind, hv⟩)
  obtain ⟨r, rfl, span⟩ : ∃ r, r? = some r ∧ r.span = ⟨41, 47⟩ := by
    have reached : (m.trailingReturn.toOption.bind id).map span = some ⟨41, 47⟩ := by
      cases converted
      cases hm
      decide +kernel
    rw [found] at reached
    exact Option.map_eq_some_iff.1 reached
  obtain ⟨returns, under, listed⟩ := onSurface r rfl
  exact ⟨n, scopes, f, m, r, converted, hs, walkF, kind, hv, found, span, returns, under, listed⟩

end Site

end PropOrder
