import Mathlib.Tactic.Common
import PropOrder.Order
import PropOrder.Proofs.Outcome

/-!
# Whom a check blames

Whatever the check of a declaration list finds, it blames a declaration of that list, which is no
spread, for a violation of a layer that the policy has switched on.
-/

namespace PropOrder

/-- Whether a policy has the layer of a violation switched on. -/
def Policy.checks (policy : Policy) : Violation → Bool
  | .requiredFirst => policy.requiredFirst
  | .callbacksLast => policy.callbacksLast
  | .alphabetical => !policy.noSortAlphabetically

namespace Order
variable {policy : Policy} {prev curr : Declaration} {d : Diagnostic} {members : List Member}

/-- The baseline that a comparison leaves is one of the two declarations. -/
theorem compare_fst_eq (policy : Policy) (prev curr : Declaration) :
    (compare policy prev curr).1 = prev ∨ (compare policy prev curr).1 = curr := by
  unfold compare
  split_ifs
  all_goals simp

/-- A comparison blames one of the two declarations, by a layer that is switched on. -/
theorem mem_compare (h : d ∈ (compare policy prev curr).2) :
    (d.site = prev.site ∨ d.site = curr.site) ∧ policy.checks d.violation = true := by
  unfold compare at h
  split_ifs at h with first required before callback below
  · cases h
  · obtain rfl := List.mem_singleton.1 h
    simp only [Bool.and_eq_true] at required
    exact ⟨.inr rfl, required.1.1⟩
  · cases h
  · obtain rfl := List.mem_singleton.1 h
    simp only [Bool.and_eq_true] at callback
    exact ⟨.inl rfl, callback.1.1⟩
  · obtain rfl := List.mem_singleton.1 h
    simp only [Bool.and_eq_true] at below
    exact ⟨.inr rfl, below.1⟩
  · cases h

/-- From a baseline on, a declaration of the list or the baseline is blamed. -/
theorem mem_checkFrom {base : Option Declaration} (h : d ∈ checkFrom policy base members) :
    (∃ e, (e ∈ base ∨ Member.declaration e ∈ members) ∧ d.site = e.site) ∧
      policy.checks d.violation = true := by
  induction members generalizing base with
  | nil => cases base <;> cases h
  | cons m rest ih =>
    cases m with
    | spread =>
      -- a spread drops the baseline
      have hrest : d ∈ checkFrom policy none rest := by cases base <;> exact h
      obtain ⟨⟨e, he, hd⟩, on⟩ := ih hrest
      have listed := he.resolve_left (by simp)
      exact ⟨⟨e, .inr (List.mem_cons_of_mem _ listed), hd⟩, on⟩
    | declaration c =>
      cases base with
      | none =>
        have h : d ∈ checkFrom policy (some c) rest := h
        obtain ⟨⟨e, he, hd⟩, on⟩ := ih h
        refine ⟨⟨e, .inr ?_, hd⟩, on⟩
        rcases he with he | he
        · rw [Option.some.inj he]
          exact List.mem_cons_self ..
        · exact List.mem_cons_of_mem _ he
      | some prev =>
        have h : d ∈ (compare policy prev c).2 ++
            checkFrom policy (some (compare policy prev c).1) rest := h
        rcases List.mem_append.1 h with found | later
        · obtain ⟨blamed, on⟩ := mem_compare found
          refine ⟨?_, on⟩
          rcases blamed with hd | hd
          · exact ⟨prev, .inl rfl, hd⟩
          · exact ⟨c, .inr (List.mem_cons_self ..), hd⟩
        · obtain ⟨⟨e, he, hd⟩, on⟩ := ih later
          refine ⟨?_, on⟩
          rcases he with he | he
          -- the baseline of the rest is one of the two declarations just compared
          · rcases compare_fst_eq policy prev c with hb | hb
            · exact ⟨e, .inl (by rw [← hb]; exact he), hd⟩
            · have same : c = e := by rw [← hb]; exact Option.some.inj he
              exact ⟨e, .inr (by rw [same]; exact List.mem_cons_self ..), hd⟩
          · exact ⟨e, .inr (List.mem_cons_of_mem _ he), hd⟩

end Order

/-- A declaration is read off an item that is no spread. -/
theorem Member.ofEntry_eq_declaration {source : Option SourceText} {e : Entry Site}
    {d : Declaration} (h : Member.ofEntry source e = .ok (.declaration d)) :
    e = .node d.site ∧ d.site.isSpread = false := by
  cases e with
  | null => cases h
  | scalar v => cases h
  | node s =>
    by_cases spread : s.isSpread = true
    · rw [Member.ofEntry] at h
      simp [Entry.site, spread] at h
    · obtain ⟨s', hs, h⟩ := bind_eq_ok_iff.1 h
      obtain rfl := Except.ok.inj hs
      rw [if_neg spread] at h
      obtain ⟨key, -, h⟩ := bind_eq_ok_iff.1 h
      obtain ⟨required, -, h⟩ := bind_eq_ok_iff.1 h
      obtain ⟨name, -, h⟩ := bind_eq_ok_iff.1 h
      cases h
      exact ⟨rfl, by simpa using spread⟩

/-- The check of a list blames items of the list that are no spreads, by layers switched on. -/
theorem mem_checkOrder {policy : Policy} {source : Option SourceText} {declarations : Value}
    {found : List Diagnostic} (h : checkOrder policy source declarations = .ok found) :
    ∀ d ∈ found, (∃ entries, declarations.items = .ok entries ∧ .node d.site ∈ entries) ∧
      d.site.isSpread = false ∧ policy.checks d.violation = true := by
  intro d hd
  obtain ⟨entries, hentries, h⟩ := bind_eq_ok_iff.1 h
  obtain ⟨members, hmembers, h⟩ := bind_eq_ok_iff.1 h
  obtain rfl := Except.ok.inj h
  obtain ⟨⟨e, he, hsite⟩, on⟩ := Order.mem_checkFrom hd
  obtain ⟨entry, hentry, hofEntry⟩ := exists_of_mem_mapM hmembers (he.resolve_left (by simp))
  obtain ⟨rfl, plain⟩ := Member.ofEntry_eq_declaration hofEntry
  rw [hsite]
  exact ⟨⟨entries, hentries, hentry⟩, plain, on⟩

end PropOrder
