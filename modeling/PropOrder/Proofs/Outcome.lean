import Mathlib.Data.List.Forall2
import PropOrder.Fault

/-!
# Outcomes of readings

A reading gives an answer or a fault. `Returns` says that it gives an answer with a property;
`ReturnsUnless` says the same, but for faults that there is a reason for. Both follow the steps of a
reading: a step after a step, a step for each item of a list.
-/

namespace PropOrder

variable {α β γ : Type} {P : α → Prop} {Q : β → Prop}

/-! ### Steps -/

theorem bind_eq_ok_iff {m : Except Fault α} {k : α → Except Fault β} {b : β} :
    m >>= k = .ok b ↔ ∃ a, m = .ok a ∧ k a = .ok b := by
  cases m with
  | error fault => simp [bind, Except.bind]
  | ok a => simp [bind, Except.bind]

/-- Changing the answer of a step does not change how it fails. -/
theorem bind_pure_eq_error_iff {m : Except Fault α} {g : α → β} {fault : Fault} :
    (do return g (← m)) = .error fault ↔ m = .error fault := by
  cases m with
  | error _ => simp [bind, Except.bind]
  | ok a => simp [bind, Except.bind, pure, Except.pure]

@[simp] theorem ok_bind (a : α) (k : α → Except Fault β) : (Except.ok a >>= k) = k a := rfl

@[simp] theorem pure_eq_ok (a : α) : (pure a : Except Fault α) = .ok a := rfl

/-- A step for each item of a list gives answers one for one. -/
theorem mapM_eq_ok_iff {f : α → Except Fault β} {l : List α} {answers : List β} :
    l.mapM f = .ok answers ↔ List.Forall₂ (fun a b => f a = .ok b) l answers := by
  induction l generalizing answers with
  | nil =>
    rw [List.mapM_nil, List.forall₂_nil_left_iff, pure_eq_ok, Except.ok.injEq]
    exact eq_comm
  | cons a l ih =>
    rw [List.mapM_cons, bind_eq_ok_iff, List.forall₂_cons_left_iff]
    simp only [bind_eq_ok_iff, ih, pure_eq_ok, Except.ok.injEq]
    constructor
    · rintro ⟨b, hb, bs, hbs, rfl⟩
      exact ⟨b, bs, hb, hbs, rfl⟩
    · rintro ⟨b, bs, hb, hbs, rfl⟩
      exact ⟨b, hb, bs, hbs, rfl⟩

theorem exists_of_mem_mapM {f : α → Except Fault β} {l : List α} {answers : List β} {b : β}
    (h : l.mapM f = .ok answers) (hb : b ∈ answers) : ∃ a ∈ l, f a = .ok b := by
  induction mapM_eq_ok_iff.1 h with
  | nil => simp at hb
  | cons ha hl ih =>
    rcases List.mem_cons.1 hb with rfl | hb
    · exact ⟨_, List.mem_cons_self .., ha⟩
    · obtain ⟨a, hm, hab⟩ := ih (mapM_eq_ok_iff.2 hl) hb
      exact ⟨a, List.mem_cons_of_mem _ hm, hab⟩

theorem exists_answer_of_mem {f : α → Except Fault β} {l : List α} {answers : List β} {a : α}
    (h : l.mapM f = .ok answers) (ha : a ∈ l) : ∃ b ∈ answers, f a = .ok b := by
  induction mapM_eq_ok_iff.1 h with
  | nil => simp at ha
  | cons hb hl ih =>
    rcases List.mem_cons.1 ha with rfl | ha
    · exact ⟨_, List.mem_cons_self .., hb⟩
    · obtain ⟨b, hm, hab⟩ := ih (mapM_eq_ok_iff.2 hl) ha
      exact ⟨b, List.mem_cons_of_mem _ hm, hab⟩

theorem mapM_eq_ok_map {f : α → Except Fault β} {g : α → β} {l : List α}
    (h : ∀ a ∈ l, f a = .ok (g a)) : l.mapM f = .ok (l.map g) := by
  rw [mapM_eq_ok_iff, List.forall₂_map_right_iff, List.forall₂_same]
  exact h

theorem eq_map_of_mapM {f : α → Except Fault β} {g : α → β} {l : List α} {answers : List β}
    (h : ∀ a b, f a = .ok b → b = g a) (hl : l.mapM f = .ok answers) : answers = l.map g := by
  have each := mapM_eq_ok_iff.1 hl
  clear hl
  induction each with
  | nil => rfl
  | cons first _ ih => rw [List.map_cons, h _ _ first, ih]

/-- A step for each item of a list fails as the first step that fails. -/
theorem mapM_eq_error_iff {f : α → Except Fault β} {l : List α} {fault : Fault} :
    l.mapM f = .error fault ↔ ∃ front a back, l = front ++ a :: back ∧
      (∀ b ∈ front, ∀ fault', f b ≠ .error fault') ∧ f a = .error fault := by
  induction l with
  | nil =>
    constructor
    · rintro ⟨⟩
    · rintro ⟨front, a, back, split, -⟩
      cases front <;> cases split
  | cons x l ih =>
    rw [List.mapM_cons]
    cases hx : f x with
    | error fault' =>
      constructor
      · rintro ⟨⟩
        exact ⟨[], x, l, rfl, by simp, hx⟩
      · rintro ⟨front, a, back, split, before, ha⟩
        cases front with
        | nil =>
          obtain ⟨rfl, -⟩ := List.cons.inj split
          obtain rfl := Except.error.inj (hx.symm.trans ha)
          rfl
        | cons b front =>
          obtain ⟨rfl, -⟩ := List.cons.inj split
          exact absurd hx (before x (List.mem_cons_self ..) _)
    | ok y =>
      rw [ok_bind, bind_pure_eq_error_iff, ih]
      constructor
      · rintro ⟨front, a, back, rfl, before, ha⟩
        refine ⟨x :: front, a, back, rfl, List.forall_mem_cons.2 ⟨?_, before⟩, ha⟩
        simp [hx]
      · rintro ⟨front, a, back, split, before, ha⟩
        cases front with
        | nil =>
          obtain ⟨rfl, -⟩ := List.cons.inj split
          rw [hx] at ha
          cases ha
        | cons b front =>
          exact ⟨front, a, back, (List.cons.inj split).2, (List.forall_mem_cons.1 before).2, ha⟩

theorem mapM_flatten_cons {f : α → Except Fault (List β)} (a : α) (l : List α) :
    (return (← (a :: l).mapM f).flatten : Except Fault (List β)) = do
      let x ← f a
      let y ← (return (← l.mapM f).flatten : Except Fault (List β))
      return x ++ y := by
  rw [List.mapM_cons]
  cases f a with
  | error fault => rfl
  | ok x =>
    cases l.mapM f with
    | error fault => rfl
    | ok ys => simp

/-- The answers of two readings that are put together. -/
theorem mapM_flatten_append {f : α → Except Fault (List β)} (l₁ l₂ : List α) :
    (return (← (l₁ ++ l₂).mapM f).flatten : Except Fault (List β)) = do
      let a ← (return (← l₁.mapM f).flatten : Except Fault (List β))
      let b ← (return (← l₂.mapM f).flatten : Except Fault (List β))
      return a ++ b := by
  rw [List.mapM_append]
  cases l₁.mapM f with
  | error fault => rfl
  | ok a =>
    cases l₂.mapM f with
    | error fault => rfl
    | ok b => simp

/-! ### What an answer satisfies -/

/-- A reading gives something with a property. -/
def Returns (m : Except Fault α) (P : α → Prop) : Prop := ∃ a, m = .ok a ∧ P a

/-- A reading does not fail. -/
abbrev Succeeds (m : Except Fault α) : Prop := Returns m fun _ => True

theorem succeeds_ok (a : α) : Succeeds (.ok a) := ⟨a, rfl, trivial⟩

theorem Returns.pure {a : α} (h : P a) : Returns (pure a) P := ⟨a, rfl, h⟩

theorem Returns.bind {m : Except Fault α} {k : α → Except Fault β} (h : Returns m P)
    (hk : ∀ a, P a → Returns (k a) Q) : Returns (m >>= k) Q := by
  obtain ⟨a, rfl, ha⟩ := h
  exact hk a ha

theorem Returns.mapM {f : α → Except Fault β} {l : List α} (h : ∀ a ∈ l, Returns (f a) Q) :
    Returns (l.mapM f) fun answers => ∀ b ∈ answers, Q b := by
  induction l with
  | nil => exact ⟨[], rfl, by simp⟩
  | cons a l ih =>
    obtain ⟨b, hb, hq⟩ := h a (List.mem_cons_self ..)
    obtain ⟨bs, hbs, hqs⟩ := ih fun a ha => h a (List.mem_cons_of_mem _ ha)
    refine ⟨b :: bs, ?_, ?_⟩
    · rw [List.mapM_cons, hb, ok_bind, hbs]
      rfl
    · intro c hc
      rcases List.mem_cons.1 hc with rfl | hc
      · exact hq
      · exact hqs c hc

theorem succeeds_anyM {f : α → Except Fault Bool} {l : List α} (h : ∀ a ∈ l, Succeeds (f a)) :
    Succeeds (l.anyM f) := by
  induction l with
  | nil => exact succeeds_ok false
  | cons a l ih =>
    obtain ⟨b, hb, -⟩ := h a (List.mem_cons_self ..)
    rw [List.anyM_cons, hb, ok_bind]
    cases b with
    | true => exact succeeds_ok true
    | false => exact ih fun a ha => h a (List.mem_cons_of_mem _ ha)

/-- Where no item fails, some item is said to be of a kind exactly if one is. -/
theorem anyM_eq_true_iff {f : α → Except Fault Bool} {l : List α} (h : ∀ a ∈ l, Succeeds (f a)) :
    l.anyM f = .ok true ↔ ∃ a ∈ l, f a = .ok true := by
  induction l with
  | nil => simp
  | cons a l ih =>
    obtain ⟨b, hb, -⟩ := h a (List.mem_cons_self ..)
    have rest := ih fun a ha => h a (List.mem_cons_of_mem _ ha)
    rw [List.anyM_cons, hb, ok_bind, List.exists_mem_cons_iff, hb]
    cases b with
    | true => simp
    | false => simpa using rest

/-! ### Faults that there is a reason for -/

/-- A reading gives something with a property, or fails with a fault that there is a reason for. -/
def ReturnsUnless (why : Fault → Prop) (m : Except Fault α) (P : α → Prop) : Prop :=
  Returns m P ∨ ∃ fault, why fault ∧ m = .error fault

namespace ReturnsUnless
variable {why : Fault → Prop} {m : Except Fault α}

theorem of_eq_ok {a : α} (h : ReturnsUnless why m P) (hm : m = .ok a) : P a := by
  rcases h with ⟨b, rfl, hb⟩ | ⟨fault, -, rfl⟩
  · rwa [← Except.ok.inj hm]
  · cases hm

theorem of_eq_error {fault : Fault} (h : ReturnsUnless why m P) (hm : m = .error fault) :
    why fault := by
  rcases h with ⟨b, rfl, -⟩ | ⟨fault', hf, rfl⟩
  · cases hm
  · rwa [← Except.error.inj hm]

theorem returns (h : ReturnsUnless why m P) (none : ∀ fault, ¬ why fault) : Returns m P :=
  h.resolve_right fun ⟨fault, hf, _⟩ => none fault hf

theorem pure {a : α} (h : P a) : ReturnsUnless why (pure a) P := .inl (.pure h)

theorem throw {fault : Fault} (h : why fault) : ReturnsUnless why (throw fault) P :=
  .inr ⟨fault, h, rfl⟩

theorem weaken {P' : α → Prop} (h : ReturnsUnless why m P) (hP : ∀ a, P a → P' a) :
    ReturnsUnless why m P' :=
  h.imp_left fun ⟨a, ha, hp⟩ => ⟨a, ha, hP a hp⟩

theorem mono {why' : Fault → Prop} (h : ReturnsUnless why m P)
    (hw : ∀ fault, why fault → why' fault) : ReturnsUnless why' m P :=
  h.imp_right fun ⟨fault, hf, hm⟩ => ⟨fault, hw fault hf, hm⟩

theorem bind {k : α → Except Fault β} (h : ReturnsUnless why m P)
    (hk : ∀ a, P a → ReturnsUnless why (k a) Q) : ReturnsUnless why (m >>= k) Q := by
  rcases h with ⟨a, rfl, ha⟩ | ⟨fault, hf, rfl⟩
  · exact hk a ha
  · exact .inr ⟨fault, hf, rfl⟩

theorem ite {c : Prop} [Decidable c] {n : Except Fault α} (hm : c → ReturnsUnless why m P)
    (hn : ¬c → ReturnsUnless why n P) : ReturnsUnless why (if c then m else n) P := by
  split
  · exact hm ‹_›
  · exact hn ‹_›

theorem mapM {f : α → Except Fault β} {l : List α} (h : ∀ a ∈ l, ReturnsUnless why (f a) Q) :
    ReturnsUnless why (l.mapM f) fun answers => ∀ b ∈ answers, Q b := by
  induction l with
  | nil => exact .pure (by simp)
  | cons a l ih =>
    rw [List.mapM_cons]
    refine .bind (h a (List.mem_cons_self ..)) fun b hb => ?_
    refine .bind (ih fun a ha => h a (List.mem_cons_of_mem _ ha)) fun bs hbs => .pure ?_
    simpa using ⟨hb, hbs⟩

end ReturnsUnless

end PropOrder
