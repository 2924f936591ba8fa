import PropOrder.Document
import PropOrder.Proofs.Inspection.Lists
import PropOrder.Proofs.Order.Blame
import PropOrder.Proofs.WellFormed.Conversion

/-!
# What is found in a document

The inspection of a converted document finds nothing but what the check of the order finds in its
declaration lists (`lint_foundIn`). If all of these are in order nothing is found, and the
inspection comes to an end whenever the root of the program has a list of statements, as the root of
a tree of kind `program` has (`not_singleBody_of_program`).
-/

namespace PropOrder

namespace Document
open Site
variable {source : SourceText} {tree : Concrete} {d : Document}

theorem ofConcrete_eq_ok (h : ofConcrete source tree = .ok d) :
    d.source = source ∧ Conversion.convert source tree = .ok d.program := by
  obtain ⟨n, hn, h⟩ := bind_eq_ok_iff.1 h
  obtain rfl := Except.ok.inj h
  exact ⟨rfl, hn⟩

/-- The root of a tree of kind `program` has a list of statements. -/
theorem not_singleBody_of_program (h : ofConcrete source tree = .ok d)
    (program : tree.kind = "program") : ¬ SingleBody d.root := by
  obtain ⟨-, converted⟩ := ofConcrete_eq_ok h
  exact not_singleBody_of_kind (r := d.root) (Conversion.convert_wellFormed converted)
    (Conversion.kind_of_program converted program)

/-- On a converted document the inspection can be set up. -/
theorem returns_inspection (wf : d.program.WellFormed d.source) (policy : Policy)
    (wrappers : List Wrapper) : Returns (d.inspection policy wrappers) fun i =>
      i.policy = policy ∧ i.source = d.source ∧ i.program = d.root := by
  obtain ⟨components, hc, -⟩ := succeeds_component_all wf
  rw [inspection, Document.root, Scope.all_eq wf, ok_bind, hc]
  exact ⟨_, rfl, rfl, rfl, rfl⟩

/-- An inspection of a converted document is one of a whole program. -/
theorem ofWellFormed_of_program {i : Inspection} (wf : d.program.WellFormed d.source)
    (hprogram : i.program = d.root) : i.OfWellFormed d.source := by
  constructor
  · rw [hprogram]
    rfl
  · rw [hprogram]
    exact wf

/-- What is found in a document is found in its declaration lists. -/
theorem checksLists_lint (wf : d.program.WellFormed d.source) (policy : Policy)
    (wrappers : List Wrapper) : ∃ i : Inspection, i.policy = policy ∧ i.source = d.source ∧
      i.program = d.root ∧ i.ChecksLists (d.lint policy wrappers) := by
  obtain ⟨i, hi, hpolicy, hsource, hprogram⟩ := returns_inspection wf policy wrappers
  refine ⟨i, hpolicy, hsource, hprogram, ?_⟩
  rw [lint, hi, ok_bind, ← hprogram]
  exact Inspection.checksLists_run (ofWellFormed_of_program wf hprogram)

/-- A diagnostic comes from a declaration list: the check of the list gives it, and it blames an
item of the list, which is no spread, for a violation of a layer that is switched on. -/
structure FoundIn (policy : Policy) (source : SourceText) (x : Diagnostic) (L : Value) : Prop where
  found : Returns (checkOrder policy (some source) L) fun ds => x ∈ ds
  listed : Returns L.items fun es => Entry.node x.site ∈ es
  declares : x.site.isSpread = false
  checked : policy.checks x.violation = true

/-- **Whatever is found in a converted document is found in one of its declaration lists.** So
nothing is found where all of them are in order, and there is an answer then unless the root of the
program holds a single node in the place of its statements, which the root of a tree of kind
`program` never does. -/
theorem lint_foundIn (converted : ofConcrete source tree = .ok d) (policy : Policy)
    (wrappers : List Wrapper) :
    (∀ found, d.lint policy wrappers = .ok found →
      ∀ x ∈ found, ∃ L, DeclarationList d.root L ∧ FoundIn policy source x L) ∧
    ((∀ L, DeclarationList d.root L → checkOrder policy (some source) L = .ok []) →
      (∀ found, d.lint policy wrappers = .ok found → found = []) ∧
      (¬ SingleBody d.root → d.lint policy wrappers = .ok []) ∧
      (tree.kind = "program" → d.lint policy wrappers = .ok [])) := by
  have listed := not_singleBody_of_program converted
  obtain ⟨rfl, hn⟩ := ofConcrete_eq_ok converted
  obtain ⟨i, rfl, hsource, hprogram, lists⟩ :=
    checksLists_lint (Conversion.convert_wellFormed hn) policy wrappers
  have check : ∀ L, i.checkList L = checkOrder i.policy (some d.source) L := by
    intro L
    rw [Inspection.checkList, hsource]
  constructor
  · intro found hfound x hx
    obtain ⟨L, hL, ds, hds, hd⟩ := lists.exists_list hfound x hx
    rw [check] at hds
    obtain ⟨⟨es, hes, mem⟩, plain, on⟩ := mem_checkOrder hds x hd
    exact ⟨L, hprogram ▸ hL, ⟨ds, hds, hd⟩, ⟨es, hes, mem⟩, plain, on⟩
  · intro sorted
    have silent := lists.silent fun L hL => by
      rw [check]
      exact sorted L (hprogram ▸ hL)
    have answer : ¬ SingleBody d.root → d.lint i.policy wrappers = .ok [] := fun many =>
      silent.resolve_right fun failed => many (hprogram ▸ failed.1)
    refine ⟨?_, answer, fun program => answer (listed program)⟩
    intro found hfound
    rcases silent with answer | ⟨-, fault, failed⟩
    · exact Except.ok.inj (hfound.symm.trans answer)
    · rw [failed] at hfound
      cases hfound

/-- The source `class {propTypes=b}`. -/
def classSource : SourceText := ⟨#[
  99, 108, 97, 115, 115, 32, 123, 112, 114, 111, 112, 84, 121, 112, 101, 115, 61, 98, 125]⟩

/-- The concrete tree of the class of `classSource`, without a program around it. -/
def classTree : Concrete :=
  .mk ⟨true, "class_declaration", "", ⟨0, 19⟩⟩ [
    .mk ⟨true, "class_body", "body", ⟨6, 19⟩⟩ [
      .mk ⟨true, "field_definition", "", ⟨7, 18⟩⟩ [
        .mk ⟨true, "property_identifier", "property", ⟨7, 16⟩⟩ [],
        .mk ⟨true, "identifier", "value", ⟨17, 18⟩⟩ []]]]

/-- A class has no list of statements to look for the name of its declarations in. -/
theorem classTree_lint : ∃ d, ofConcrete classSource classTree = .ok d ∧
    (∀ L, DeclarationList d.root L → checkOrder .standard (some classSource) L = .ok []) ∧
    d.lint .standard [] ≠ .ok [] := by
  obtain ⟨d, converted⟩ : ∃ d, ofConcrete classSource classTree = .ok d := ⟨_, rfl⟩
  have fails : (do (← ofConcrete classSource classTree).lint .standard []).isOk = false := by
    decide +kernel
  have kinds : (do
      return (← ofConcrete classSource classTree).root.walk.all fun s =>
        s.kind ∉ ["ObjectExpression", "ObjectPattern", "TSTypeLiteral", "TSInterfaceBody"]
      ).toOption = some true := by
    decide +kernel
  rw [converted] at fails kinds
  have listless := List.all_eq_true.1 (Option.some.inj kinds)
  refine ⟨d, converted, ?_, ?_⟩
  · intro L hL
    cases hL with
    | object hs hk => rcases hk with hk | hk <;> simpa [hk] using listless _ hs
    | typeLiteral hs hk => simpa [hk] using listless _ hs
    | interface hs hk => simpa [hk] using listless _ hs
  · intro answer
    rw [ok_bind, answer] at fails
    cases fails

/-- The source `X.propTypes={b:1,a:2}`. -/
def propTypesSource : SourceText := ⟨#[
  88, 46, 112, 114, 111, 112, 84, 121, 112, 101, 115, 61, 123, 98, 58, 49, 44, 97, 58, 50, 125]⟩

/-- The concrete tree of `propTypesSource`. -/
def propTypesTree : Concrete :=
  .mk ⟨true, "program", "", ⟨0, 21⟩⟩ [
    .mk ⟨true, "expression_statement", "", ⟨0, 21⟩⟩ [
      .mk ⟨true, "assignment_expression", "", ⟨0, 21⟩⟩ [
        .mk ⟨true, "member_expression", "left", ⟨0, 11⟩⟩ [
          .mk ⟨true, "identifier", "object", ⟨0, 1⟩⟩ [],
          .mk ⟨false, ".", "", ⟨1, 2⟩⟩ [],
          .mk ⟨true, "property_identifier", "property", ⟨2, 11⟩⟩ []],
        .mk ⟨false, "=", "", ⟨11, 12⟩⟩ [],
        .mk ⟨true, "object", "right", ⟨12, 21⟩⟩ [
          .mk ⟨true, "pair", "", ⟨13, 16⟩⟩ [
            .mk ⟨true, "property_identifier", "key", ⟨13, 14⟩⟩ [],
            .mk ⟨true, "number", "value", ⟨15, 16⟩⟩ []],
          .mk ⟨true, "pair", "", ⟨17, 20⟩⟩ [
            .mk ⟨true, "property_identifier", "key", ⟨17, 18⟩⟩ [],
            .mk ⟨true, "number", "value", ⟨19, 20⟩⟩ []]]]]]

theorem propTypesTree_lint : ∃ d found x L, ofConcrete propTypesSource propTypesTree = .ok d ∧
    d.lint .standard [] = .ok found ∧ x ∈ found ∧ DeclarationList d.root L ∧
    FoundIn .standard propTypesSource x L := by
  obtain ⟨d, converted⟩ : ∃ d, ofConcrete propTypesSource propTypesTree = .ok d := ⟨_, rfl⟩
  have one : (do
      return (← (← ofConcrete propTypesSource propTypesTree).lint .standard []).length
      ).toOption = some 1 := by
    decide +kernel
  rw [converted, ok_bind] at one
  obtain ⟨found, hfound⟩ : ∃ found, d.lint .standard [] = .ok found := by
    cases answer : d.lint .standard [] with
    | error fault => rw [answer] at one; cases one
    | ok found => exact ⟨found, rfl⟩
  rw [hfound] at one
  obtain ⟨x, hx⟩ : ∃ x, x ∈ found :=
    List.exists_mem_of_length_pos (by rw [Option.some.inj one]; decide)
  obtain ⟨L, hL, here⟩ := (lint_foundIn converted .standard []).1 found hfound x hx
  exact ⟨d, found, x, L, converted, hfound, hx, hL, here⟩

end Document

end PropOrder
