import Mathlib.Data.Nat.Digits.Defs
import PropOrder.Declaration
import PropOrder.Proofs.WellFormed

/-!
# Declarations of a well-formed program

A member of a declaration list of a well-formed program can be read as it is compared with others,
but for one reason: its key is a number literal, and the integer has more decimal digits than are
written (`returnsUnless_ofEntry`).
-/

namespace PropOrder

/-- An integer with a given fault has more decimal digits than are written. -/
def LongFault (i : ℤ) (fault : Fault) : Prop :=
  fault = .integerTooLong ∧ 10 ^ Numeral.maxDigits ≤ i.natAbs

theorem returnsUnless_decimalText (i : ℤ) :
    ReturnsUnless (LongFault i) (Scalar.decimalText i) fun _ => True := by
  unfold Scalar.decimalText
  refine .ite (fun long => .throw ⟨rfl, ?_⟩) fun _ => .pure trivial
  by_contra short
  have digits := Nat.repr_length i.natAbs Numeral.maxDigits (by decide) (not_le.1 short)
  have length : (Text.ofNat i.natAbs).length = (Nat.repr i.natAbs).length := by
    rw [Text.ofNat, Text.ofString, List.length_map, String.length_toList]
    rfl
  omega

namespace Site
variable {source : SourceText} {s k : Site}

/-- The key of a declaration is a number literal, and its integer has more decimal digits than are
written. -/
def HasLongKey (s : Site) : Prop :=
  ∃ k n, s.get "key" = .node k ∧ k.kind = "Literal" ∧ k.get "value" = .one (.scalar (.int n)) ∧
    10 ^ Numeral.maxDigits ≤ n.natAbs

/-- What the value of a node is: a node, or a scalar if the node is a literal. -/
theorem get_value (wf : k.node.WellFormed source) :
    k.get "value" = .null ∨ (∃ c, k.get "value" = .node c) ∨
      ∃ v, k.kind = "Literal" ∧ k.get "value" = .one (.scalar v) := by
  cases hc : contentOf k.kind "value" with
  | none => exact .inl (get_of_contentOf_eq_none wf hc)
  | some content =>
    have sorts : content.isNode = true ∨ (content = .scalar ∧ k.kind = "Literal") :=
      of_contentOf (P := fun kind content => content.isNode = true ∨
        (content = .scalar ∧ kind = "Literal")) hc (by decide) (by simp [commonFields])
    rcases sorts with node | ⟨rfl, literal⟩
    · cases content with
      | node kind =>
        rcases get_node wf hc with hg | ⟨c, -, hg, -⟩
        · exact .inl hg
        · exact .inr (.inl ⟨c, hg⟩)
      | nodes _ => cases node
      | scalar => cases node
      | text => cases node
      | spelling => cases node
      | flag => cases node
    · rcases get_of_contentOf wf hc with hg | ⟨slot, v, hg, rfl | ⟨v, rfl⟩⟩
      · exact .inl hg
      · exact .inl hg
      · exact .inr (.inr ⟨v, literal, hg⟩)

/-- The value of a number literal is the reason for a fault if its integer is too long. -/
def ValueFault (k : Site) (fault : Fault) : Prop :=
  ∃ i, k.kind = "Literal" ∧ k.get "value" = .one (.scalar (.int i)) ∧ LongFault i fault

theorem returnsUnless_display (wf : k.node.WellFormed source) :
    ReturnsUnless k.ValueFault (k.get "value").display fun _ => True := by
  rcases get_value wf with hg | ⟨c, hg⟩ | ⟨v, literal, hg⟩
  · rw [hg]
    exact .pure trivial
  · rw [hg]
    exact .pure trivial
  · cases v with
    | text t => rw [hg]; exact .pure trivial
    | real x => rw [hg]; exact .pure trivial
    | bool b => rw [hg]; exact .pure trivial
    | int n =>
      have shown : (k.get "value").display = Scalar.decimalText n := by rw [hg]; rfl
      rw [shown]
      exact (returnsUnless_decimalText n).mono fun fault long => ⟨n, literal, hg, long⟩

/-- A number literal as a key is the reason for a fault if its integer is too long. -/
def KeyFault (s : Site) (fault : Fault) : Prop := fault = .integerTooLong ∧ s.HasLongKey

theorem returnsUnless_display_value (wf : k.node.WellFormed source) (key : s.get "key" = .node k) :
    ReturnsUnless s.KeyFault (k.get "value").display fun _ => True := by
  refine (returnsUnless_display wf).mono ?_
  rintro fault ⟨n, literal, hg, rfl, long⟩
  exact ⟨rfl, k, n, key, literal, hg, long⟩

/-- On a well-formed program a declaration is sorted by a text. -/
theorem returnsUnless_declarationKey (wf : s.node.WellFormed source) (text : SourceText) :
    ReturnsUnless s.KeyFault (s.declarationKey (some text)) fun key => ∃ t, key = .text t := by
  rcases get_nodeField wf (show nodeField "key" = true from rfl) with hg | ⟨k, mem, hg⟩
  · rcases get_nodeField wf (show nodeField "argument" = true from rfl) with ha | ⟨a, -, ha⟩
    · simp only [declarationKey, hg, ha]
      exact .pure ⟨_, rfl⟩
    · simp only [declarationKey, hg, ha]
      exact .pure ⟨_, rfl⟩
  · simp only [declarationKey, hg]
    refine .ite (fun _ => ?_) fun _ => .pure ⟨_, rfl⟩
    exact .bind (returnsUnless_display_value (wellFormed_of_mem_children wf mem) hg) fun t _ =>
      .pure ⟨t, rfl⟩

theorem succeeds_isRequired (wf : s.node.WellFormed source) : Succeeds s.isRequired := by
  unfold isRequired
  split
  · exact succeeds_ok _
  next property =>
  have kind : s.kind = "Property" := by simpa using property
  have content : contentOf s.kind "value" = some .child := by rw [kind]; rfl
  rw [site?_get wf content, ok_bind]
  cases hc : s.child? "value" with
  | none => exact succeeds_ok _
  | some value =>
    have wfv := wellFormed_of_mem_children wf (mem_children_of_child? hc)
    exact returns_bind_child wfv rfl (succeeds_ok _) fun _ _ => succeeds_ok _

end Site

/-- The member of a declaration list that a node is. -/
theorem returnsUnless_ofEntry {source : SourceText} {s : Site} (wf : s.node.WellFormed source)
    (text : SourceText) :
    ReturnsUnless (fun fault => s.KeyFault fault ∧ s.isSpread = false)
      (Member.ofEntry (some text) (.node s)) fun _ => True := by
  show ReturnsUnless _ (if s.isSpread then _ else _) _
  refine .ite (fun _ => .pure trivial) fun plain => ?_
  obtain ⟨required, hrequired, -⟩ := Site.succeeds_isRequired wf
  rcases Site.returnsUnless_declarationKey wf text with ⟨_, hkey, t, rfl⟩ | ⟨fault, why, hkey⟩
  · rw [hkey, ok_bind, hrequired, ok_bind]
    exact .pure trivial
  · rw [hkey]
    exact .throw ⟨why, by simpa using plain⟩

end PropOrder
