import PropOrder.Proofs.Declaration
import PropOrder.Proofs.Document

/-!
# What stops a document

A concrete tree becomes a document unless a quoted literal in it has an escape above the last code
point, or an instantiation in it has no constituent. The inspection of a document then has an
answer, but for two reasons: a declaration that is compared has a number literal as its key whose
integer has more digits than are written, or the root of the program holds a single node in the
place of its statements, which the root of a tree of kind `program` never does
(`lint_returnsUnless`).
-/

namespace PropOrder

namespace Text

/-- Whether a piece of a quoted literal stands for something. -/
def Piece.fits : Piece → Bool
  | numeric value => value ≤ 0x10FFFF
  | _ => true

end Text

namespace Concrete

/-- The escapes in all quoted literals of a tree give numbers of code points. -/
def EscapesFit (source : SourceText) (tree : Concrete) : Prop :=
  ∀ t ∈ tree.nodes, t.kind = "string" →
    ∀ piece ∈ Text.scan (Text.withoutEnds (source.text t.span)), piece.fits = true

/-- Each instantiation in a tree has a child that is more than a fixed token and no comment. -/
def InstantiationsApply (tree : Concrete) : Prop :=
  ∀ t ∈ tree.nodes, t.kind = "instantiation_expression" →
    ∃ c ∈ t.children, c.head.named = true ∧ c.kind ≠ "comment"

instance (source : SourceText) (tree : Concrete) : Decidable (EscapesFit source tree) := by
  unfold EscapesFit; infer_instance

instance (tree : Concrete) : Decidable (InstantiationsApply tree) := by
  unfold InstantiationsApply; infer_instance

end Concrete

namespace Conversion
variable {source : SourceText} {tree : Concrete}

/-- In a tree with neither of the two there is no reason why it becomes nothing. -/
theorem not_limit (escapes : tree.EscapesFit source) (applied : tree.InstantiationsApply) :
    ∀ fault, ¬ Limit source tree fault := by
  intro fault limit
  cases limit with
  | @escape t v mem kind spelled large =>
    have fits : v ≤ 0x10FFFF := of_decide_eq_true (escapes t mem kind _ spelled)
    omega
  | @bare t mem kind none =>
    obtain ⟨c, hc, named, other⟩ := applied t mem kind
    exact other (none c hc named)

theorem returns_convert (escapes : tree.EscapesFit source) (applied : tree.InstantiationsApply) :
    Returns (convert source tree) (Node.WellFormed source) :=
  (convert_returnsUnless source tree).returns (not_limit escapes applied)

end Conversion

namespace Inspection
open Site
variable {i : Inspection} {source : SourceText}

/-- A declaration that is compared in an inspection: an item of a list that is checked at a node,
and no spread. -/
def Compares (i : Inspection) (x : Site) : Prop :=
  x.isSpread = false ∧ ∃ s ∈ i.program.walk, ∃ L, i.ChecksAt s L ∧ x ∈ L.nodeList

/-- A declaration that is compared is the reason for a fault if its key is too long. -/
def ComparedFault (i : Inspection) (fault : Fault) : Prop :=
  ∃ x, i.Compares x ∧ x.KeyFault fault

theorem returnsUnless_checkList (h : i.OfWellFormed source) {s : Site} {L : Value}
    (hs : s ∈ i.program.walk) (checked : i.ChecksAt s L) :
    ReturnsUnless i.ComparedFault (i.checkList L) fun _ => True := by
  obtain ⟨items, walk⟩ := items_declarationList h (declarationList_of_checksAt h hs checked)
  rw [checkList, checkOrder, items, ok_bind]
  refine .bind (.mapM (Q := fun _ => True) fun e he => ?_) fun _ _ => .pure trivial
  obtain ⟨x, hx, rfl⟩ := List.mem_map.1 he
  refine (returnsUnless_ofEntry (h.wellFormed (walk x hx)) i.source).mono ?_
  rintro fault ⟨key, plain⟩
  exact ⟨x, ⟨plain, s, hs, L, checked, hx⟩, key⟩

theorem returnsUnless_checkLists (h : i.OfWellFormed source) {lists : List Value}
    (checked : ∀ L ∈ lists, ∃ s ∈ i.program.walk, i.ChecksAt s L) :
    ReturnsUnless i.ComparedFault (i.checkLists lists) fun _ => True := by
  refine .bind (.mapM (Q := fun _ => True) fun L hL => ?_) fun _ _ => .pure trivial
  obtain ⟨s, hs, hc⟩ := checked L hL
  exact returnsUnless_checkList h hs hc

/-- An inspection of a whole program has an answer, unless a key is too long or the body of the
program is no list. -/
theorem returnsUnless_run (h : i.OfWellFormed source) :
    ReturnsUnless (fun fault => i.ComparedFault fault ∨ BodyFault i.program fault)
      (i.run i.program) fun _ => True := by
  rcases checks_run h with ⟨lists, all, hrun⟩ | ⟨single, lists, some, hrun⟩
  · rw [hrun]
    exact (returnsUnless_checkLists h fun L hL => (all L).1 hL).mono fun _ => .inl
  · rw [hrun]
    exact .bind ((returnsUnless_checkLists h some).mono fun _ => .inl) fun _ _ =>
      .throw (.inr ⟨rfl, single⟩)

end Inspection

namespace Document
open Site
variable {source : SourceText} {tree : Concrete} {d : Document}

/-- **A concrete tree with no escape that is too large and no instantiation of nothing becomes a
document, and its inspection has an answer**, unless the key of a declaration that is compared is
too long, or the root of the program holds a single node in the place of its statements, which the
root of a tree of kind `program` never does. -/
theorem lint_returnsUnless (escapes : tree.EscapesFit source)
    (applied : tree.InstantiationsApply) : ∃ d, ofConcrete source tree = .ok d ∧
      (tree.kind = "program" → ¬ SingleBody d.root) ∧
      ∀ policy wrappers, ∃ i, d.inspection policy wrappers = .ok i ∧
        ((∃ found, d.lint policy wrappers = .ok found) ∨
          (d.lint policy wrappers = .error .integerTooLong ∧
            ∃ x, i.Compares x ∧ x.HasLongKey) ∨
          (d.lint policy wrappers = .error .notAList ∧ SingleBody d.root)) := by
  obtain ⟨n, hn, wf⟩ := Conversion.returns_convert escapes applied
  have converted : ofConcrete source tree = .ok ⟨source, n⟩ := by rw [ofConcrete, hn]; rfl
  refine ⟨_, converted, not_singleBody_of_program converted, fun policy wrappers => ?_⟩
  obtain ⟨i, hi, -, -, hprogram⟩ := returns_inspection (d := ⟨source, n⟩) wf policy wrappers
  have whole : i.OfWellFormed source := ⟨by rw [hprogram]; rfl, by rw [hprogram]; exact wf⟩
  refine ⟨i, hi, ?_⟩
  rw [lint, hi, ok_bind, ← hprogram]
  rcases Inspection.returnsUnless_run whole with ⟨found, hfound, -⟩ |
    ⟨fault, ⟨x, compared, rfl, long⟩ | ⟨rfl, single⟩, failed⟩
  · exact .inl ⟨found, hfound⟩
  · exact .inr (.inl ⟨failed, x, compared, long⟩)
  · exact .inr (.inr ⟨failed, single⟩)

/-- The source `class A extends B<C>{propTypes={'\u{41}':1}}`. -/
def escapeSource : SourceText := ⟨#[
  99, 108, 97, 115, 115, 32, 65, 32, 101, 120, 116, 101, 110, 100, 115, 32, 66, 60, 67, 62, 123,
  112, 114, 111, 112, 84, 121, 112, 101, 115, 61, 123, 39, 92, 117, 123, 52, 49, 125, 39, 58, 49,
  125, 125]⟩

/-- The concrete tree of `escapeSource`. -/
def escapeTree : Concrete :=
  .mk ⟨true, "program", "", ⟨0, 44⟩⟩ [
    .mk ⟨true, "class_declaration", "", ⟨0, 44⟩⟩ [
      .mk ⟨true, "identifier", "name", ⟨6, 7⟩⟩ [],
      .mk ⟨true, "class_heritage", "", ⟨8, 20⟩⟩ [
        .mk ⟨true, "extends_clause", "", ⟨8, 20⟩⟩ [
          .mk ⟨true, "instantiation_expression", "value", ⟨16, 20⟩⟩ [
            .mk ⟨true, "identifier", "", ⟨16, 17⟩⟩ [],
            .mk ⟨true, "type_arguments", "type_arguments", ⟨17, 20⟩⟩ [
              .mk ⟨true, "type_identifier", "", ⟨18, 19⟩⟩ []]]]],
      .mk ⟨true, "class_body", "body", ⟨20, 44⟩⟩ [
        .mk ⟨true, "public_field_definition", "", ⟨21, 43⟩⟩ [
          .mk ⟨true, "property_identifier", "name", ⟨21, 30⟩⟩ [],
          .mk ⟨true, "object", "value", ⟨31, 43⟩⟩ [
            .mk ⟨true, "pair", "", ⟨32, 42⟩⟩ [
              .mk ⟨true, "string", "key", ⟨32, 40⟩⟩ [
                .mk ⟨true, "escape_sequence", "", ⟨33, 39⟩⟩ []],
              .mk ⟨true, "number", "value", ⟨41, 42⟩⟩ []]]]]]]

theorem escapeTree_lint : escapeTree.EscapesFit escapeSource ∧ escapeTree.InstantiationsApply ∧
    ∃ d, ofConcrete escapeSource escapeTree = .ok d ∧ ∃ i,
      d.inspection .standard [] = .ok i ∧
        ((∃ found, d.lint .standard [] = .ok found) ∨
          (d.lint .standard [] = .error .integerTooLong ∧ ∃ x, i.Compares x ∧ x.HasLongKey)) := by
  have escapes : escapeTree.EscapesFit escapeSource := by decide +kernel
  have applied : escapeTree.InstantiationsApply := by decide +kernel
  obtain ⟨d, converted, listed, ends⟩ := lint_returnsUnless escapes applied
  obtain ⟨i, hi, answer | long | ⟨-, single⟩⟩ := ends .standard []
  · exact ⟨escapes, applied, d, converted, i, hi, .inl answer⟩
  · exact ⟨escapes, applied, d, converted, i, hi, .inr long⟩
  · exact absurd single (listed rfl)

/-- A class without a program around it has nothing that is too large and no instantiation of
nothing, but no list of statements either. -/
theorem classTree_fails : classTree.EscapesFit classSource ∧ classTree.InstantiationsApply ∧
    ∃ d, ofConcrete classSource classTree = .ok d ∧ d.lint .standard [] = .error .notAList := by
  have escapes : classTree.EscapesFit classSource := by decide +kernel
  have applied : classTree.InstantiationsApply := by decide +kernel
  have fails : (match ofConcrete classSource classTree >>= fun d => d.lint .standard [] with
      | .ok _ => none
      | .error fault => some fault) = some Fault.notAList := by
    decide +kernel
  obtain ⟨d, converted⟩ : ∃ d, ofConcrete classSource classTree = .ok d := ⟨_, rfl⟩
  refine ⟨escapes, applied, d, converted, ?_⟩
  rw [converted, ok_bind] at fails
  cases answer : d.lint .standard [] with
  | ok found => rw [answer] at fails; cases fails
  | error fault =>
    rw [answer] at fails
    rw [Option.some.inj fails]

end Document

end PropOrder
