import PropOrder.Proofs.Surface
import PropOrder.Proofs.WellFormed.Conversion

/-!
# The boundary of a function

Everything on the return surface of a function lies directly under the function. Every candidate
does (`directlyUnder_of_mem_given`), because a scope belongs to the function only if no other
function comes in between, and following a statement never steps over a function
(`directlyUnder_of_mem_follow`).
-/

namespace PropOrder

namespace Site
variable {source : SourceText} {f s : Site}

theorem isFunctionLike_eq_false_of_isBlock (h : s.isBlock = true) : s.isFunctionLike = false :=
  isFunctionLike_eq_false (eq_of_beq h) (by decide)

/-- A statement of the body of a function is directly under the function. -/
theorem directlyUnder_of_mem_body {body : Site} (hb : f.get "body" = .node body)
    (block : body.isBlock = true) (hs : s ∈ (body.get "body").nodeList) : s.DirectlyUnder f :=
  (DirectlyUnder.of_mem_children (mem_children_of_get hb)).child
    (isFunctionLike_eq_false_of_isBlock block) (mem_of_get_nodeList hs)

/-- A scope of a function other than the function itself is directly under it, and no function. -/
theorem directlyUnder_of_ownedBy {n : Node} (hs : s ∈ (root n).walk) (hf : f ∈ (root n).walk)
    (function : f.isFunctionLike = true) (owned : s.ownedBy f = true)
    (other : s.opens ≠ some .function) : s.DirectlyUnder f ∧ s.isFunctionLike = false := by
  rcases (ownedBy_iff hs hf).1 owned with rfl | under
  · exact absurd (opens_eq_function_iff.2 function) other
  · exact under

/-- Every candidate of a function is directly under it. -/
theorem directlyUnder_of_mem_given {n : Node} (hs : s ∈ (root n).walk) (hf : f ∈ (root n).walk)
    (function : f.isFunctionLike = true) (owned : s.ownedBy f = true) :
    ∀ c ∈ given f s, c.DirectlyUnder f := by
  intro c hc
  have inScope := directlyUnder_of_ownedBy hs hf function owned
  unfold given at hc
  split at hc
  · split at hc
    · obtain ⟨body, hbody, hc⟩ := List.mem_flatMap.1 hc
      have under : body.DirectlyUnder f := .of_mem_children (mem_of_get_nodeList hbody)
      split at hc
      -- the body in braces is directly under the function, and so are its statements
      · next block =>
        have statement := mem_of_get_nodeList (List.mem_of_mem_filter hc)
        exact under.child (isFunctionLike_eq_false_of_isBlock block) statement
      · rw [List.mem_singleton.1 hc]
        exact under
    · cases hc
  · next ho =>
    obtain ⟨under, plain⟩ := inScope (by simp [ho])
    exact under.child plain (mem_of_get_nodeList hc)
  · next ho =>
    rw [List.mem_singleton.1 hc]
    exact (inScope (by simp [ho])).1
  · next ho =>
    obtain ⟨under, plain⟩ := inScope (by simp [ho])
    exact under.child plain (mem_of_get_nodeList (mem_get_of_mem_unbraced hc))
  · cases hc

/-- Following a statement that is no function stays directly under the function. -/
theorem directlyUnder_of_mem_next {c : Site} (wf : s.node.WellFormed source)
    (h : s.DirectlyUnder f) (plain : s.isFunctionLike = false) (hc : c ∈ s.next) :
    c.DirectlyUnder f := by
  rcases mem_next hc with hc | ⟨switch, case, hcase, hc⟩
  · exact h.child plain hc
  · have plain' := isFunctionLike_eq_false (kind_of_mem_cases wf switch hcase) (by decide)
    exact (h.child plain (mem_of_get_nodeList hcase)).child plain' hc

/-- All that a candidate directly under a function leads to is directly under the function. -/
theorem directlyUnder_of_mem_follow {s : Site} (wf : s.node.WellFormed source)
    (h : s.DirectlyUnder f) : ∀ x ∈ follow f s, x.DirectlyUnder f := by
  intro x hx
  rw [follow_eq] at hx
  split at hx
  · rw [List.mem_singleton.1 hx]
    exact h
  split at hx
  · split at hx
    · rw [List.mem_singleton.1 hx]
      exact h
    · cases hx
  next returns =>
  have plain : s.isFunctionLike = false := by
    rw [Bool.or_eq_true, not_or] at returns
    simpa using returns.2
  split at hx
  · exact h.child plain (mem_of_get_nodeList hx)
  · obtain ⟨c, hc, hx⟩ := List.mem_flatMap.1 hx
    have wfc : c.node.WellFormed source :=
      wellFormed_of_mem_walk wf c (mem_walk_of_mem_next (mem_walk_self s) hc)
    exact directlyUnder_of_mem_follow wfc (directlyUnder_of_mem_next wf h plain hc) x hx
termination_by sizeOf s.node
decreasing_by exact sizeOf_lt_of_mem_next hc

/-- All items of a return surface are sites directly under a function. -/
def SurfaceUnder (f : Site) (surface : Option (List Value)) : Prop :=
  ∀ values ∈ surface, ∀ v ∈ values, ∃ x, v = .node x ∧ x.DirectlyUnder f

theorem surfaceUnder_returnSurface {n : Node} (wf : n.WellFormed source) (hf : f ∈ (root n).walk)
    (function : f.isFunctionLike = true) :
    Returns (f.returnSurface (Scope.opened (root n).walk)) (SurfaceUnder f) := by
  refine ⟨_, returnSurface_eq wf hf function, ?_⟩
  intro values hvalues v hv
  split at hvalues
  · cases hvalues
  · obtain rfl := Option.some.inj hvalues
    obtain ⟨x, hx, rfl⟩ := List.mem_map.1 hv
    obtain ⟨c, hc, hx⟩ := List.mem_flatMap.1 hx
    obtain ⟨s, hs, hc⟩ := List.mem_flatMap.1 hc
    obtain ⟨hs, owned⟩ := List.mem_filter.1 hs
    have wfc := wellFormed_of_mem_walk wf c (given_subset hs hf c hc)
    have under := directlyUnder_of_mem_given hs hf function owned c hc
    exact ⟨x, rfl, directlyUnder_of_mem_follow wfc under x hx⟩

/-- In the program of every concrete tree the return surface of a function is found, and all of it
lies directly under the function; so it is for a method or a property that holds the function. -/
theorem returnSurface_directlyUnder {tree : Concrete} {n : Node}
    (converted : Conversion.convert source tree = .ok n) :
    Returns (Scope.all (root n)) fun scopes =>
      ∀ f ∈ (root n).walk, f.isFunctionLike = true →
        Returns (f.returnSurface scopes) (SurfaceUnder f) ∧
        ∀ m ∈ (root n).walk, m.kind = "MethodDefinition" ∨ m.kind = "Property" →
          m.get "value" = .node f → Returns (m.returnSurface scopes) (SurfaceUnder f) := by
  have wf := Conversion.convert_wellFormed converted
  refine ⟨_, Scope.all_eq wf, fun f hf function => ?_⟩
  have surface := surfaceUnder_returnSurface wf hf function
  refine ⟨surface, fun m _ holder hv => ?_⟩
  rw [returnSurface_of_value holder hv function]
  exact surface

/-- The source `{m(){return()=>{return 1}}}`. -/
def methodSource : SourceText := .ofString "\x7bm()\x7breturn()=>\x7breturn 1\x7d\x7d\x7d"

/-- The concrete tree of `methodSource`. -/
def methodTree : Concrete :=
  .mk ⟨true, "object", "", ⟨0, 27⟩⟩ [
    .mk ⟨true, "method_definition", "", ⟨1, 26⟩⟩ [
      .mk ⟨true, "property_identifier", "name", ⟨1, 2⟩⟩ [],
      .mk ⟨true, "formal_parameters", "parameters", ⟨2, 4⟩⟩ [],
      .mk ⟨true, "statement_block", "body", ⟨4, 26⟩⟩ [
        .mk ⟨true, "return_statement", "", ⟨5, 25⟩⟩ [
          .mk ⟨true, "arrow_function", "", ⟨11, 25⟩⟩ [
            .mk ⟨true, "formal_parameters", "parameters", ⟨11, 13⟩⟩ [],
            .mk ⟨true, "statement_block", "body", ⟨15, 25⟩⟩ [
              .mk ⟨true, "return_statement", "", ⟨16, 24⟩⟩ [
                .mk ⟨true, "number", "", ⟨23, 24⟩⟩ []]]]]]]]

/-- The method returns a function. The surface of the property that holds the method is the return
of the method, and that lies directly under it. The return inside of what is returned is on the walk
of the method too, but not on the surface. -/
theorem methodTree_surface : ∃ (n : Node) (scopes : List Scope) (m f outer inner : Site),
    Conversion.convert methodSource methodTree = .ok n ∧ Scope.all (root n) = .ok scopes ∧
      m.kind = "Property" ∧ m.get "value" = .node f ∧
      m.returnSurface scopes = .ok (some [.node outer]) ∧ outer.span = ⟨5, 25⟩ ∧
      outer.DirectlyUnder f ∧ inner ∈ f.walk ∧ inner.kind = "ReturnStatement" ∧
      inner.span = ⟨16, 24⟩ := by
  obtain ⟨n, converted⟩ : ∃ n, Conversion.convert methodSource methodTree = .ok n := ⟨_, rfl⟩
  obtain ⟨m, hm⟩ : ∃ m, (root n).get "properties" = .nodes [m] := by
    cases converted
    exact ⟨_, rfl⟩
  obtain ⟨f, hv⟩ : ∃ f, m.get "value" = .node f := by
    cases converted
    cases hm
    exact ⟨_, rfl⟩
  have facts : m.kind = "Property" ∧ f.isFunctionLike = true := by
    cases converted
    cases hm
    cases hv
    exact ⟨rfl, rfl⟩
  obtain ⟨kind, function⟩ := facts
  have inObject := mem_children_of_get_nodes hm (List.mem_singleton_self m)
  have walkM := mem_walk_of_mem_children (mem_walk_self _) inObject
  have walkF := mem_walk_of_mem_children walkM (mem_children_of_get hv)
  obtain ⟨inner, walkI, returns, span⟩ : ∃ inner ∈ f.walk,
      inner.kind = "ReturnStatement" ∧ inner.span = ⟨16, 24⟩ := by
    cases converted
    cases hm
    cases hv
    decide +kernel
  obtain ⟨scopes, hs, surfaces⟩ := returnSurface_directlyUnder converted
  obtain ⟨surface, hsurface, under⟩ := (surfaces f walkF function).2 m walkM (.inr kind) hv
  have computed : (Scope.all (root n) >>= m.returnSurface).toOption.bind id = surface := by
    rw [hs, ok_bind, hsurface]
    rfl
  have listed : surface.map (List.map fun v : Value => v.nodeList.map Site.span) =
      some [[⟨5, 25⟩]] := by
    rw [← computed]
    cases converted
    cases hm
    decide +kernel
  obtain ⟨values, rfl, single⟩ := Option.map_eq_some_iff.1 listed
  obtain ⟨v, rfl, place⟩ := List.map_eq_singleton_iff.1 single
  obtain ⟨outer, rfl, directly⟩ := under _ rfl v (List.mem_singleton_self v)
  exact ⟨n, scopes, m, f, outer, inner, converted, hs, kind, hv, hsurface,
    List.singleton_inj.1 place, directly, walkI, returns, span⟩

end Site

end PropOrder
