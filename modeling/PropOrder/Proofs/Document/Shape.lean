import PropOrder.Proofs.Document

/-!
# Looking at shapes only adds

A policy says whether the declarations of shapes are checked. Nothing but the visit of a call asks
it that, so that an inspection without shapes passes over the calls and does at every other node
what the one with shapes does (`supplemented_visit`). Over a whole document the one finds what the
other finds, in the same order, and some more in between, all of it in the properties of shapes
(`lint_supplemented`).
-/

namespace PropOrder

/-! ### Lists with something put in -/

section Lists
variable {α β : Type} {P : α → Prop} {l l' m m' : List α}

/-- The second list is the first with items put in, each of which has the property. -/
inductive Supplemented (P : α → Prop) : List α → List α → Prop
  | nil : Supplemented P [] []
  /-- An item of both lists. -/
  | both (x : α) {l m : List α} (rest : Supplemented P l m) : Supplemented P (x :: l) (x :: m)
  /-- An item that is put in. -/
  | added {x : α} {l m : List α} (here : P x) (rest : Supplemented P l m) :
    Supplemented P l (x :: m)

namespace Supplemented

theorem refl (l : List α) : Supplemented P l l := by
  induction l with
  | nil => exact .nil
  | cons x l ih => exact .both x ih

theorem of_forall (h : ∀ x ∈ m, P x) : Supplemented P [] m := by
  induction m with
  | nil => exact .nil
  | cons x m ih =>
    obtain ⟨here, rest⟩ := List.forall_mem_cons.1 h
    exact .added here (ih rest)

theorem append (h : Supplemented P l m) (h' : Supplemented P l' m') :
    Supplemented P (l ++ l') (m ++ m') := by
  induction h with
  | nil => exact h'
  | both x _ ih => exact .both x ih
  | added here _ ih => exact .added here ih

theorem sublist (h : Supplemented P l m) : l.Sublist m := by
  induction h with
  | nil => exact .slnil
  | both x _ ih => exact ih.cons_cons x
  | added _ _ ih => exact ih.cons _

end Supplemented

/-- If each answer of one reading is that of another with something put in, so are all their answers
together. -/
theorem supplemented_mapM {f g : β → Except Fault (List α)} {items : List β} {found : List α}
    (each : ∀ b ∈ items, ∀ all, f b = .ok all → Returns (g b) (Supplemented P · all))
    (h : (do return (← items.mapM f).flatten) = .ok found) :
    Returns (do return (← items.mapM g).flatten) (Supplemented P · found) := by
  induction items generalizing found with
  | nil =>
    obtain rfl := Except.ok.inj h
    exact .pure .nil
  | cons b items ih =>
    obtain ⟨first, others⟩ := List.forall_mem_cons.1 each
    rw [mapM_flatten_cons] at h ⊢
    obtain ⟨all, here, h⟩ := bind_eq_ok_iff.1 h
    obtain ⟨more, rest, h⟩ := bind_eq_ok_iff.1 h
    obtain rfl := Except.ok.inj h
    exact (first all here).bind fun fewer some =>
      (ih others rest).bind fun less more => .pure (some.append more)

end Lists

/-! ### What does not depend on shapes -/

/-- A policy with shapes looked at or not. -/
def Policy.withShapes (policy : Policy) (shapes : Bool) : Policy :=
  { policy with sortShapeProp := shapes }

theorem Order.checkFrom_withShapes (policy : Policy) (shapes : Bool) (prev : Option Declaration)
    (members : List Member) :
    checkFrom (policy.withShapes shapes) prev members = checkFrom policy prev members := by
  fun_induction checkFrom policy prev members with
  | case1 => rfl
  | case2 prev rest ih => exact ih
  | case3 d rest ih => exact ih
  | case4 prev d rest next found compared ih =>
    have same : compare (policy.withShapes shapes) prev d = (next, found) := compared
    rw [checkFrom, same, ← ih]

theorem checkOrder_withShapes (policy : Policy) (shapes : Bool) :
    checkOrder (policy.withShapes shapes) = checkOrder policy := by
  funext source declarations
  simp only [checkOrder, Order.checkMembers, Order.checkFrom_withShapes]

namespace Inspection
open Site
variable (i : Inspection) (shapes : Bool)

/-- An inspection with shapes looked at or not. -/
def withShapes : Inspection := { i with policy := i.policy.withShapes shapes }

theorem checkList_withShapes : (i.withShapes shapes).checkList = i.checkList :=
  congrFun (checkOrder_withShapes i.policy shapes) (some i.source)

theorem checkVariable_withShapes : (i.withShapes shapes).checkVariable = i.checkVariable := by
  funext s
  unfold checkVariable
  rw [checkList_withShapes]
  rfl

theorem checkExpression_withShapes (s : Site) :
    (i.withShapes shapes).checkExpression s = i.checkExpression s := by
  fun_induction checkExpression i s with
  | case1 s ih =>
    rw [checkExpression, checkList_withShapes, checkVariable_withShapes]
    refine congrArg (s.withUnwrapped []) ?_
    funext u smaller
    split
    · rfl
    split
    · rfl
    split
    · split
      · rfl
      · split
        · rfl
        · next inner first _ =>
          have inside : (fun c (_ : c ∈ inner.nodeList) =>
              (i.withShapes shapes).checkExpression c) = fun c _ => i.checkExpression c := by
            funext c mem
            exact ih u smaller inner first c mem
          rw [inside]
          rfl
    · rfl

theorem checkExpression?_withShapes :
    (i.withShapes shapes).checkExpression? = i.checkExpression? := by
  funext v
  unfold checkExpression?
  rw [funext (checkExpression_withShapes i shapes)]

theorem checkType_withShapes : (i.withShapes shapes).checkType = i.checkType := by
  have declared : (i.withShapes shapes).checkDeclarationOf = i.checkDeclarationOf := by
    funext name declaration
    unfold checkDeclarationOf
    rw [checkList_withShapes]
  have item : (i.withShapes shapes).checkItem = i.checkItem := by
    funext name e
    unfold checkItem
    rw [declared]
  have named : (i.withShapes shapes).checkTypeName = i.checkTypeName := by
    funext name
    unfold checkTypeName
    rw [item]
    rfl
  have bare : (i.withShapes shapes).checkBareType = i.checkBareType := by
    funext s
    unfold checkBareType
    rw [named, checkList_withShapes]
  funext v
  unfold checkType
  rw [bare]

theorem visitClassProperty_withShapes :
    (i.withShapes shapes).visitClassProperty = i.visitClassProperty := by
  funext s
  unfold visitClassProperty
  rw [checkExpression?_withShapes]

theorem visitMember_withShapes : (i.withShapes shapes).visitMember = i.visitMember := by
  funext s
  unfold visitMember
  rw [checkExpression?_withShapes]

theorem visitObject_withShapes : (i.withShapes shapes).visitObject = i.visitObject := by
  have member : (i.withShapes shapes).visitObjectMember = i.visitObjectMember := by
    funext e
    unfold visitObjectMember
    rw [checkList_withShapes]
  funext s
  unfold visitObject
  rw [member]

theorem visitClass_withShapes : (i.withShapes shapes).visitClass = i.visitClass := by
  funext s
  unfold visitClass
  rw [checkType_withShapes]
  rfl

theorem visitFunction_withShapes : (i.withShapes shapes).visitFunction = i.visitFunction := by
  funext s
  unfold visitFunction
  rw [checkType_withShapes]
  rfl

/-- Only the visit of a call asks whether shapes are looked at. -/
theorem visit_withShapes {s : Site} (other : s.kind ≠ "CallExpression") :
    (i.withShapes shapes).visit s = i.visit s := by
  unfold visit
  rw [beq_false_of_ne other, visitClassProperty_withShapes, visitMember_withShapes,
    visitObject_withShapes, visitClass_withShapes, visitFunction_withShapes]
  rfl

/-! ### What shapes add -/

/-- The first argument of a call of a member called `shape`. -/
structure ShapeArgument (program call argument : Site) : Prop where
  mem : call ∈ program.walk
  kind : call.kind = "CallExpression"
  called : ∃ m p, call.get "callee" = .node m ∧ m.get "property" = .node p ∧
    p.get "name" = .text (.ofString "shape")
  first : (call.get "arguments").nodeList.head? = some argument

/-- The properties that a shape of the program is made of: those of the argument itself, or of what
it stands for if it is a name. -/
inductive ShapeProperties (program : Site) : Value → Prop
  /-- The argument itself. -/
  | own {c a : Site} (given : ShapeArgument program c a) :
    ShapeProperties program (a.get "properties")
  /-- What the argument stands for. -/
  | bound {c a o : Site} (given : ShapeArgument program c a) (kind : a.kind = "Identifier")
    (bound : StandsFor program a o) : ShapeProperties program (o.get "properties")

/-- A diagnostic is one of those that the check of the order finds in the properties of a shape. -/
def InShape (i : Inspection) (x : Diagnostic) : Prop :=
  ∃ L, ShapeProperties i.program L ∧ Returns (i.checkList L) fun found => x ∈ found

theorem called_of_isShapeCall {s : Site} (h : s.isShapeCall = .ok true) :
    ∃ m p, s.get "callee" = .node m ∧ m.get "property" = .node p ∧
      p.get "name" = .text (.ofString "shape") := by
  obtain ⟨callee?, callee, h⟩ := bind_eq_ok_iff.1 h
  cases callee? with
  | none => cases h
  | some m =>
    obtain ⟨property?, property, h⟩ := bind_eq_ok_iff.1 h
    cases property? with
    | none => cases h
    | some p =>
      exact ⟨m, p, Value.eq_node_of_site? callee, Value.eq_node_of_site? property,
        Slot.eq_text_of_isText (Except.ok.inj h)⟩

variable {i} {s : Site}

theorem shapeProperties_of_shapeList {L : Value} (hs : s ∈ i.program.walk)
    (kind : s.kind = "CallExpression") (made : ShapeList i s L) :
    ShapeProperties i.program L := by
  obtain ⟨-, called, c, first, given⟩ := made
  have argument : ShapeArgument i.program s c := ⟨hs, kind, called_of_isShapeCall called, first⟩
  unfold ArgumentProperties at given
  split at given
  · obtain ⟨identifier, o, bound, rfl⟩ := given
    exact .bound argument identifier bound
  · rw [given]
    exact .own argument

/-- What the visit of a node finds with shapes is what it finds without them, and what is found in
shapes. -/
theorem supplemented_visit {source : SourceText} (h : i.OfWellFormed source)
    (hs : s ∈ i.program.walk) {all : List Diagnostic}
    (found : (i.withShapes true).visit s = .ok all) :
    Returns ((i.withShapes false).visit s) (Supplemented i.InShape · all) := by
  by_cases call : s.kind = "CallExpression"
  · have nothing : (i.withShapes false).visit s = .ok [] := by
      rw [visit, if_pos (beq_iff_eq.2 call)]
      rfl
    have checked : (i.withShapes true).visitCall s = .ok all := by
      rwa [visit, if_pos (beq_iff_eq.2 call)] at found
    refine ⟨[], nothing, .of_forall fun x hx => ?_⟩
    have whole : (i.withShapes true).OfWellFormed source := ⟨h.top, h.wf⟩
    obtain ⟨L, made, here⟩ := (checks_visitCall whole hs).exists_list checked x hx
    rw [checkList_withShapes] at here
    exact ⟨L, shapeProperties_of_shapeList (i := i.withShapes true) hs call made, here⟩
  · rw [visit_withShapes i true call] at found
    rw [visit_withShapes i false call, found]
    exact .pure (.refl all)

end Inspection

namespace Document
open Inspection
variable {source : SourceText} {tree : Concrete} {d : Document}

theorem inspection_withShapes {policy : Policy} {wrappers : List Wrapper} {i : Inspection}
    (h : d.inspection policy wrappers = .ok i) (shapes : Bool) :
    d.inspection (policy.withShapes shapes) wrappers = .ok (i.withShapes shapes) := by
  obtain ⟨scopes, hscopes, h⟩ := bind_eq_ok_iff.1 h
  obtain ⟨components, hcomponents, h⟩ := bind_eq_ok_iff.1 h
  obtain rfl := Except.ok.inj h
  rw [inspection, hscopes, ok_bind, hcomponents]
  rfl

/-- **To look at shapes only adds to what is found in a converted document.** If the inspection
comes to an end with shapes, it does without them, and finds the same but for some that the check
of the order finds in the properties of a shape. -/
theorem lint_supplemented (converted : ofConcrete source tree = .ok d) (policy : Policy)
    (wrappers : List Wrapper) {found : List Diagnostic}
    (h : d.lint (policy.withShapes true) wrappers = .ok found) :
    ∃ fewer, d.lint (policy.withShapes false) wrappers = .ok fewer ∧ fewer.Sublist found ∧
      Supplemented (fun x => ∃ L, ShapeProperties d.root L ∧
        Returns (checkOrder (policy.withShapes true) (some source) L) fun ds => x ∈ ds)
        fewer found := by
  obtain ⟨rfl, hn⟩ := ofConcrete_eq_ok converted
  have wf := Conversion.convert_wellFormed hn
  obtain ⟨i, hi, rfl, hsource, hprogram⟩ := returns_inspection wf policy wrappers
  have whole := ofWellFormed_of_program wf hprogram
  rw [lint, inspection_withShapes hi, ok_bind] at h
  obtain ⟨fewer, hfewer, supplemented⟩ := supplemented_mapM (g := (i.withShapes false).visit)
    (fun s hs all => supplemented_visit whole (hprogram ▸ hs)) h
  refine ⟨fewer, ?_, supplemented.sublist, ?_⟩
  · rw [lint, inspection_withShapes hi, ok_bind]
    exact hfewer
  · rw [← hprogram, ← hsource, checkOrder_withShapes]
    exact supplemented

/-- The source `X.propTypes={b:s.shape({d:1,c:2}),a:3}`. -/
def shapeSource : SourceText := .ofString "X.propTypes=\x7bb:s.shape(\x7bd:1,c:2\x7d),a:3\x7d"

/-- The concrete tree of `shapeSource`. -/
def shapeTree : Concrete :=
  .mk ⟨true, "program", "", ⟨0, 38⟩⟩ [
    .mk ⟨true, "expression_statement", "", ⟨0, 38⟩⟩ [
      .mk ⟨true, "assignment_expression", "", ⟨0, 38⟩⟩ [
        .mk ⟨true, "member_expression", "left", ⟨0, 11⟩⟩ [
          .mk ⟨true, "identifier", "object", ⟨0, 1⟩⟩ [],
          .mk ⟨true, "property_identifier", "property", ⟨2, 11⟩⟩ []],
        .mk ⟨true, "object", "right", ⟨12, 38⟩⟩ [
          .mk ⟨true, "pair", "", ⟨13, 33⟩⟩ [
            .mk ⟨true, "property_identifier", "key", ⟨13, 14⟩⟩ [],
            .mk ⟨true, "call_expression", "value", ⟨15, 33⟩⟩ [
              .mk ⟨true, "member_expression", "function", ⟨15, 22⟩⟩ [
                .mk ⟨true, "identifier", "object", ⟨15, 16⟩⟩ [],
                .mk ⟨true, "property_identifier", "property", ⟨17, 22⟩⟩ []],
              .mk ⟨true, "arguments", "arguments", ⟨22, 33⟩⟩ [
                .mk ⟨true, "object", "", ⟨23, 32⟩⟩ [
                  .mk ⟨true, "pair", "", ⟨24, 27⟩⟩ [
                    .mk ⟨true, "property_identifier", "key", ⟨24, 25⟩⟩ [],
                    .mk ⟨true, "number", "value", ⟨26, 27⟩⟩ []],
                  .mk ⟨true, "pair", "", ⟨28, 31⟩⟩ [
                    .mk ⟨true, "property_identifier", "key", ⟨28, 29⟩⟩ [],
                    .mk ⟨true, "number", "value", ⟨30, 31⟩⟩ []]]]]],
          .mk ⟨true, "pair", "", ⟨34, 37⟩⟩ [
            .mk ⟨true, "property_identifier", "key", ⟨34, 35⟩⟩ [],
            .mk ⟨true, "number", "value", ⟨36, 37⟩⟩ []]]]]]

/-- Of two diagnostics, the one in the shape is added. -/
theorem shapeTree_supplemented : ∃ d found fewer, ofConcrete shapeSource shapeTree = .ok d ∧
    d.lint (Policy.standard.withShapes true) [] = .ok found ∧ found.length = 2 ∧
    d.lint (Policy.standard.withShapes false) [] = .ok fewer ∧ fewer.length = 1 ∧
    fewer.Sublist found ∧ Supplemented (fun x => ∃ L, ShapeProperties d.root L ∧
      Returns (checkOrder (Policy.standard.withShapes true) (some shapeSource) L) fun ds => x ∈ ds)
      fewer found := by
  obtain ⟨d, converted⟩ : ∃ d, ofConcrete shapeSource shapeTree = .ok d := ⟨_, rfl⟩
  have lengths : ∀ shapes : Bool, (do
      return (← (← ofConcrete shapeSource shapeTree).lint (Policy.standard.withShapes shapes)
        []).length).toOption = some (if shapes then 2 else 1) := by
    decide +kernel
  have answers : ∀ shapes : Bool, ∃ found,
      d.lint (Policy.standard.withShapes shapes) [] = .ok found ∧
        found.length = if shapes then 2 else 1 := by
    intro shapes
    have length := lengths shapes
    rw [converted, ok_bind] at length
    cases answer : d.lint (Policy.standard.withShapes shapes) [] with
    | error fault => rw [answer] at length; cases length
    | ok found =>
      rw [answer] at length
      exact ⟨found, rfl, Option.some.inj length⟩
  obtain ⟨found, hfound, two⟩ := answers true
  obtain ⟨fewer, hfewer, sublist, supplemented⟩ :=
    lint_supplemented converted .standard [] hfound
  obtain ⟨fewer', hfewer', one⟩ := answers false
  obtain rfl := Except.ok.inj (hfewer.symm.trans hfewer')
  exact ⟨d, found, fewer, converted, hfound, two, hfewer, one, sublist, supplemented⟩

end Document

end PropOrder
