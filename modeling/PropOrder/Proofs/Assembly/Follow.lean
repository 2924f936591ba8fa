import Mathlib.Data.List.Forall2
import Mathlib.Data.Multiset.Bind
import Mathlib.Tactic.Abel
import PropOrder.Proofs.Assembly.Draft
import PropOrder.Proofs.Outcome

/-!
# Making objects follows the conversion

An object that a computation holds stands for a node. What is held is held once: no object is held
twice, and none is held that a field of another object holds (`Sound`). A making follows a
conversion if from every sound store both fail with the same fault, or else the making ends in a
sound store with what it made in its hands, and keeps its hands off whatever else is held
(`Follows`). A making that puts one object into two fields does not follow anything.

The statements of this module are the steps that the rules are made of.
-/

namespace PropOrder.Assembly
variable {α α' β β' γ γ' : Type}

/-! ### What is held -/

/-- An object that is held, and the node that it stands for. -/
abbrev Held := Ref × Node

/-- An answer that holds objects, with its two sides: the same answer in objects, and in nodes. -/
class Carrier (γ : Type) (α β : outParam Type) where
  /-- The answer in objects. -/
  refs : γ → α
  /-- The answer in nodes. -/
  nodes : γ → β
  /-- The objects that are held. -/
  owned : γ → Multiset Held

open Carrier (refs nodes owned)

instance : Carrier Held Ref Node := ⟨Prod.fst, Prod.snd, fun h => {h}⟩

instance : Carrier Text Text Text := ⟨id, id, fun _ => 0⟩

instance [Carrier γ α β] : Carrier (Option γ) (Option α) (Option β) :=
  ⟨Option.map refs, Option.map nodes, fun o => o.elim 0 owned⟩

instance [Carrier γ α β] : Carrier (List γ) (List α) (List β) :=
  ⟨List.map refs, List.map nodes, fun l => (l.map owned).sum⟩

instance [Carrier γ α β] : Carrier (γ × Bool) (α × Bool) (β × Bool) :=
  ⟨fun c => (refs c.1, c.2), fun c => (nodes c.1, c.2), fun c => owned c.1⟩

instance : Carrier (Option Held × Option Held) (Option Ref × Option Ref) Conversion.Base :=
  ⟨fun c => (refs c.1, refs c.2), fun c => ⟨nodes c.1, nodes c.2⟩, fun c => owned c.1 + owned c.2⟩

section Carrier
variable [Carrier γ α β] (c : γ) (l : List γ)

theorem owned_none : owned (none : Option γ) = 0 := rfl

theorem owned_some : owned (some c) = owned c := rfl

theorem owned_pair (b : Bool) : owned (c, b) = owned c := rfl

theorem owned_base (superClass typeArguments : Option Held) :
    owned (superClass, typeArguments) = owned superClass + owned typeArguments := rfl

theorem owned_cons : owned (c :: l) = owned c + owned l := rfl

/-- Leaving out what is missing leaves the same objects held. -/
theorem owned_filterMap_id (l : List (Option γ)) : owned (l.filterMap id) = owned l := by
  induction l with
  | nil => rfl
  | cons o l ih =>
    cases o with
    | none => simpa [owned_cons, owned_none] using ih
    | some c => simpa [owned_cons, owned_some] using ih

theorem refs_filterMap_id (l : List (Option γ)) :
    refs (l.filterMap id) = (refs l).filterMap id := by
  induction l with
  | nil => rfl
  | cons o l ih =>
    cases o with
    | none => exact ih
    | some c => exact congrArg (refs c :: ·) ih

theorem nodes_filterMap_id (l : List (Option γ)) :
    nodes (l.filterMap id) = (nodes l).filterMap id := by
  induction l with
  | nil => rfl
  | cons o l ih =>
    cases o with
    | none => exact ih
    | some c => exact congrArg (nodes c :: ·) ih

end Carrier

/-! ### Fields that hold objects -/

/-- A slot in objects and the slot in nodes that it stands for, and the objects that it holds. -/
structure SlotStands (slot : Slot Ref) (view : Slot Node) (held : Multiset Held) : Prop where
  holds : (slot.nodeList : Multiset Ref) = held.map Prod.fst
  stands : ∀ V : Ref → Node, (∀ h ∈ held, V h.1 = h.2) → slot.map V = view

/-- Fields in objects and the fields in nodes that they stand for, and the objects that they
hold. -/
structure FieldsStand (fields : Fields Ref) (view : Fields Node) (held : Multiset Held) : Prop where
  holds : (fields.held : Multiset Ref) = held.map Prod.fst
  stand : ∀ V : Ref → Node, (∀ h ∈ held, V h.1 = h.2) → fields.mapNodes V = view

section Stands
variable {slot : Slot Ref} {view : Slot Node} {fields : Fields Ref} {views : Fields Node}
  {held held' : Multiset Held}

theorem SlotStands.null : SlotStands .null .null 0 := ⟨rfl, fun _ _ => rfl⟩

theorem SlotStands.scalar (v : Scalar) : SlotStands (.one (.scalar v)) (.one (.scalar v)) 0 :=
  ⟨rfl, fun _ _ => rfl⟩

theorem SlotStands.node (h : Held) : SlotStands (.node (refs h)) (.node (nodes h)) (owned h) :=
  ⟨rfl, fun _ hV => congrArg Slot.node (hV h (Multiset.mem_singleton_self h))⟩

theorem SlotStands.option (o : Option Held) :
    SlotStands (.ofOption (refs o)) (.ofOption (nodes o)) (owned o) := by
  cases o with
  | none => exact .null
  | some h => exact .node h

theorem SlotStands.list (l : List Held) :
    SlotStands (.nodes (refs l)) (.nodes (nodes l)) (owned l) := by
  have all : owned l = l := by
    induction l with
    | nil => rfl
    | cons h l ih => rw [owned_cons, ih]; rfl
  rw [all]
  constructor
  · simp [Slot.nodeList, Slot.entries, Entry.node?, List.filterMap_map, Function.comp_def, refs]
  · intro V hV
    simp only [Slot.map, Slot.nodes, refs, nodes, List.map_map]
    exact congrArg Slot.many (List.map_congr_left fun h hh => congrArg Entry.node (hV h hh))

theorem FieldsStand.nil : FieldsStand [] [] 0 := ⟨rfl, fun _ _ => rfl⟩

theorem FieldsStand.cons {name : String} (first : SlotStands slot view held)
    (rest : FieldsStand fields views held') :
    FieldsStand ((name, slot) :: fields) ((name, view) :: views) (held + held') := by
  constructor
  · rw [Multiset.map_add, ← first.holds, ← rest.holds]
    rfl
  · intro V hV
    have one := first.stands V fun h hh => hV h (Multiset.mem_add.2 (.inl hh))
    have all := rest.stand V fun h hh => hV h (Multiset.mem_add.2 (.inr hh))
    simp only [Fields.mapNodes, List.map_cons] at all ⊢
    rw [one, all]

end Stands

/-! ### Sound stores -/

/-- A store with a node for each number, and the objects that are held. Whatever refers to an
object, a field or a hand, is the only one that does. -/
structure Sound (covered : Span → Prop) (σ : Store) (V : Ref → Node) (held : Multiset Held) :
    Prop where
  shows : σ.Shows V
  stands : ∀ h ∈ held, V h.1 = h.2
  once : (σ.edges + held.map Prod.fst).Nodup
  kept : ∀ r ∈ σ.edges + held.map Prod.fst, r < σ.length
  covered : ∀ o ∈ σ, covered o.head.span

namespace Sound
variable {covered : Span → Prop} {σ : Store} {V : Ref → Node} {held owned rest : Multiset Held}
  {fields : Fields Ref} {views : Fields Node} {head : Head} {r : Ref} {n : Node}

theorem mono (h : Sound covered σ V held) (le : rest ≤ held) : Sound covered σ V rest := by
  have le' : σ.edges + rest.map Prod.fst ≤ σ.edges + held.map Prod.fst := by gcongr
  exact ⟨h.shows, fun c hc => h.stands c (Multiset.mem_of_le le hc),
    Multiset.nodup_of_le le' h.once, fun c hc => h.kept c (Multiset.mem_of_le le' hc), h.covered⟩

theorem nil (covered : Span → Prop) (V : Ref → Node) : Sound covered [] V 0 :=
  ⟨by simp [Store.Shows, Store.content?], by simp, by simp [Store.edges], by simp [Store.edges],
    by simp⟩

theorem lt_of_mem (h : Sound covered σ V held) (hr : (r, n) ∈ held) : r < σ.length :=
  h.kept r (Multiset.mem_add.2 (.inr (Multiset.mem_map_of_mem Prod.fst hr)))

theorem lt_of_content? (h : Sound covered σ V held) {fields : Fields Ref}
    (hr : σ.content? r = some (head, fields)) : ∀ c ∈ fields.held, c < σ.length :=
  fun c hc => h.kept c (Multiset.mem_add.2 (.inl (Store.mem_edges_of_content? hr hc)))

/-- What is held can be looked into. -/
theorem content? (h : Sound covered σ V held) (hr : (r, n) ∈ held) :
    ∃ head fields, σ.content? r = some (head, fields) ∧ n = .mk head (fields.mapNodes V) := by
  have bound := h.lt_of_mem hr
  have hc := Store.content?_eq_some_iff.2 ⟨_, List.getElem?_eq_getElem bound, rfl, rfl⟩
  exact ⟨_, _, hc, (h.stands _ hr).symm.trans (h.shows _ _ _ hc)⟩

theorem kind (h : Sound covered σ V held) (hr : (r, n) ∈ held) : σ.kind r = n.kind := by
  obtain ⟨head, fields, hc, rfl⟩ := h.content? hr
  rw [Store.kind, hc]
  rfl

theorem isText_get (h : Sound covered σ V held) (hr : (r, n) ∈ held) (name text : String) :
    (σ.get r name).isText text = (n.get name).isText text := by
  obtain ⟨head, fields, hc, rfl⟩ := h.content? hr
  rw [Store.get, hc, Node.get, Node.fields_mk, Fields.lookup_mapNodes, Option.bind_some]
  cases fields.lookup name with
  | none => rfl
  | some slot => exact (Slot.isText_map V slot text).symm

/-- A new object takes what its fields hold out of the hands. -/
theorem make (h : Sound covered σ V (owned + rest)) (stand : FieldsStand fields views owned)
    (span : covered head.span) : Sound covered (σ ++ [⟨head, fields, none⟩])
      (Function.update V σ.length (.mk head views)) ((σ.length, .mk head views) ::ₘ rest) := by
  have old : ∀ c < σ.length, Function.update V σ.length (.mk head views) c = V c :=
    fun c hc => Function.update_of_ne hc.ne _ _
  have oldHeld : ∀ c ∈ owned + rest, Function.update V σ.length (.mk head views) c.1 = c.2 :=
    fun c hc => (old c.1 (h.lt_of_mem hc)).trans (h.stands c hc)
  have taken : Store.edges (σ ++ [⟨head, fields, none⟩]) +
      ((σ.length, Node.mk head views) ::ₘ rest).map Prod.fst =
        σ.length ::ₘ (σ.edges + (owned + rest).map Prod.fst) := by
    rw [Store.edges_append, stand.holds, Multiset.map_cons, Multiset.map_add, Multiset.add_cons,
      add_assoc]
  constructor
  · intro c head' fields' hc
    rcases Store.lt_or_eq_of_content?_append hc with lt | rfl
    · rw [Store.content?_append_of_lt lt] at hc
      rw [old c lt, h.shows c _ _ hc,
        Fields.mapNodes_congr fun d hd => (old d (h.lt_of_content? hc d hd)).symm]
    · rw [Store.content?_append_length] at hc
      obtain ⟨rfl, rfl⟩ := Prod.mk.inj (Option.some.inj hc)
      rw [Function.update_self,
        stand.stand _ fun d hd => oldHeld d (Multiset.mem_add.2 (.inl hd))]
  · intro c hc
    rcases Multiset.mem_cons.1 hc with rfl | hc
    · exact Function.update_self ..
    · exact oldHeld c (Multiset.mem_add.2 (.inr hc))
  · rw [taken, Multiset.nodup_cons]
    exact ⟨fun hc => (h.kept _ hc).false, h.once⟩
  · intro c hc
    rw [taken, Multiset.mem_cons] at hc
    rw [List.length_append, List.length_singleton]
    rcases hc with rfl | hc
    · exact Nat.lt_succ_self _
    · exact Nat.lt_succ_of_lt (h.kept c hc)
  · intro o ho
    rcases List.mem_append.1 ho with ho | ho
    · exact h.covered o ho
    · obtain rfl := List.mem_singleton.1 ho
      exact span

/-- An object that is held may be changed. -/
theorem setField {name : String} {slot : Slot Ref} {view : Slot Node}
    (h : Sound covered σ V ((r, n) ::ₘ (owned + rest))) (stands : SlotStands slot view owned) :
    Sound covered (σ.setField r name slot) (Function.update V r (n.set name view))
      ((r, n.set name view) ::ₘ rest) := by
  -- nothing else refers to the object
  have alone : r ∉ σ.edges + (owned + rest).map Prod.fst := by
    have once := h.once
    rw [Multiset.map_cons, Multiset.add_cons, Multiset.nodup_cons] at once
    exact once.1
  have same : ∀ c ≠ r, Function.update V r (n.set name view) c = V c :=
    fun c hc => Function.update_of_ne hc _ _
  have sameHeld : ∀ c ∈ owned + rest, Function.update V r (n.set name view) c.1 = c.2 := by
    intro c hc
    have apart : c.1 ≠ r := by
      rintro rfl
      exact alone (Multiset.mem_add.2 (.inr (Multiset.mem_map_of_mem _ hc)))
    exact (same c.1 apart).trans (h.stands c (Multiset.mem_cons_of_mem hc))
  have sameFields : ∀ c head fields, σ.content? c = some (head, fields) →
      fields.mapNodes (Function.update V r (n.set name view)) = fields.mapNodes V := by
    intro c head fields hc
    refine Fields.mapNodes_congr fun d hd => same d ?_
    rintro rfl
    exact alone (Multiset.mem_add.2 (.inl (Store.mem_edges_of_content? hc hd)))
  have taken : (σ.setField r name slot).edges + ((r, n.set name view) ::ₘ rest).map Prod.fst ≤
      σ.edges + ((r, n) ::ₘ (owned + rest)).map Prod.fst := by
    calc (σ.setField r name slot).edges + ((r, n.set name view) ::ₘ rest).map Prod.fst
        ≤ slot.nodeList + σ.edges + ((r, n.set name view) ::ₘ rest).map Prod.fst := by
          gcongr
          exact Store.edges_setField_le σ r name slot
      _ = σ.edges + ((r, n) ::ₘ (owned + rest)).map Prod.fst := by
          rw [stands.holds, Multiset.map_cons, Multiset.map_cons, Multiset.map_add,
            Multiset.add_cons, Multiset.add_cons, add_comm _ σ.edges, add_assoc]
  obtain ⟨head, fields, hr, hn⟩ := h.content? (Multiset.mem_cons_self _ _)
  constructor
  · intro c head' fields' hc
    by_cases eq : r = c
    · subst eq
      rw [Store.content?_setField_self hr] at hc
      obtain ⟨rfl, rfl⟩ := Prod.mk.inj (Option.some.inj hc)
      rw [Function.update_self, Fields.mapNodes_set, sameFields r _ _ hr,
        stands.stands _ fun d hd => sameHeld d (Multiset.mem_add.2 (.inl hd)), hn]
      rfl
    · rw [Store.content?_setField_of_ne eq] at hc
      rw [same c (Ne.symm eq), h.shows c _ _ hc, sameFields c _ _ hc]
  · intro c hc
    rcases Multiset.mem_cons.1 hc with rfl | hc
    · exact Function.update_self ..
    · exact sameHeld c (Multiset.mem_add.2 (.inr hc))
  · exact Multiset.nodup_of_le taken h.once
  · intro c hc
    have bound := h.kept c (Multiset.mem_of_le taken hc)
    rwa [Store.setField, List.length_modify]
  · intro o ho
    obtain ⟨o', ho', heads⟩ := Store.head_of_mem_setField ho
    exact heads ▸ h.covered o' ho'

end Sound

/-! ### Following -/

/-- A making follows a conversion: both fail with the same fault, or the making ends with the
objects in its hands that stand for what the conversion gives. Whatever else is held is left
alone. -/
def Follows (covered : Span → Prop) (γ : Type) [Carrier γ α β] (held : Multiset Held)
    (m : Except Fault β) (p : Making α) : Prop :=
  ∀ σ V rest, Sound covered σ V (held + rest) →
    (∃ (c : γ) (σ' : Store) (V' : Ref → Node), m = .ok (nodes c) ∧ p.run σ = .ok (refs c, σ') ∧
      Sound covered σ' V' (owned c + rest)) ∨
    ∃ fault, m = .error fault ∧ p.run σ = .error fault

namespace Follows
variable [Carrier γ α β] [Carrier γ' α' β'] {covered : Span → Prop}
  {held owned₁ owned₂ : Multiset Held} {m : Except Fault β} {p : Making α}
  {k : β → Except Fault β'} {k' : α → Making α'}

theorem mono (h : Follows covered γ owned₁ m p) (le : owned₁ ≤ held) :
    Follows covered γ held m p := by
  intro σ V rest sound
  exact h σ V rest (sound.mono (by gcongr))

theorem pure (c : γ) (le : owned c ≤ held) :
    Follows covered γ held (pure (nodes c)) (pure (refs c)) :=
  fun σ V rest sound => .inl ⟨c, σ, V, rfl, rfl, sound.mono (by gcongr)⟩

theorem throw (fault : Fault) :
    Follows covered γ held (throw fault : Except Fault β) (throw fault) :=
  fun _ _ _ _ => .inr ⟨fault, rfl, rfl⟩

/-- A step that makes no objects. -/
theorem lift (m : Except Fault Text) : Follows covered Text 0 m (liftM m) := by
  intro σ V rest sound
  cases m with
  | ok t => exact .inl ⟨t, σ, V, rfl, rfl, sound⟩
  | error fault => exact .inr ⟨fault, rfl, rfl⟩

/-- A step that takes nothing out of the hands, and then another with what the first one made. -/
theorem bind (h : Follows covered γ 0 m p)
    (hk : ∀ c : γ, Follows covered γ' (owned c + held) (k (nodes c)) (k' (refs c))) :
    Follows covered γ' held (m >>= k) (p >>= k') := by
  intro σ V rest sound
  rcases h σ V (held + rest) (by rwa [zero_add]) with
    ⟨c, τ, W, rfl, hp, sound'⟩ | ⟨fault, rfl, hp⟩
  · rw [← add_assoc] at sound'
    have run : (p >>= k').run σ = (k' (refs c)).run τ := by
      rw [StateT.run_bind, hp]
      rfl
    rw [run]
    exact hk c τ W rest sound'
  · refine .inr ⟨fault, rfl, ?_⟩
    rw [StateT.run_bind, hp]
    rfl

/-- A step that looks into an object that is held. -/
theorem look {ρ : Type} {view : Store → ρ} {next : ρ → Making α} {r : ρ}
    (sees : ∀ σ V rest, Sound covered σ V (held + rest) → view σ = r)
    (h : Follows covered γ held m (next r)) :
    Follows covered γ held m (Assembly.look view >>= next) := by
  intro σ V rest sound
  have run : (Assembly.look view >>= next).run σ = (next r).run σ := by
    rw [← sees σ V rest sound]
    rfl
  rw [run]
  exact h σ V rest sound

/-- A step that changes an object that is held. -/
theorem setField {r : Ref} {n : Node} {name : String} {slot : Slot Ref} {view : Slot Node}
    {next : Unit → Making α} (stands : SlotStands slot view owned₁)
    (h : Follows covered γ ((r, n.set name view) ::ₘ held) m (next ())) :
    Follows covered γ ((r, n) ::ₘ (owned₁ + held)) m (Assembly.setField r name slot >>= next) := by
  intro σ V rest sound
  rw [Multiset.cons_add, add_assoc] at sound
  exact h _ _ rest (by rw [Multiset.cons_add]; exact sound.setField stands)

/-- A step that makes an object that holds what was in the hands. -/
theorem makeObject {head : Head} {fields : Fields Ref} {views : Fields Node}
    (stand : FieldsStand fields views owned₁) (le : owned₁ ≤ held) (span : covered head.span) :
    Follows covered Held held (Pure.pure (.mk head views)) (Assembly.makeObject head fields) := by
  intro σ V rest sound
  have stillSound : Sound covered σ V (owned₁ + rest) := sound.mono (by gcongr)
  exact .inl ⟨(σ.length, .mk head views), _, _, rfl, rfl, stillSound.make stand span⟩

/-- A step that makes an object, and then a step that has it in the hands, and nothing else. -/
theorem makeObject_then {head : Head} {fields : Fields Ref} {views : Fields Node}
    {next : Ref → Making α} (stand : FieldsStand fields views owned₁) (le : owned₁ ≤ held)
    (span : covered head.span)
    (h : ∀ r, Follows covered γ (owned (r, Node.mk head views)) m (next r)) :
    Follows covered γ held m (Assembly.makeObject head fields >>= next) := by
  intro σ V rest sound
  have stillSound : Sound covered σ V (owned₁ + rest) := sound.mono (by gcongr)
  exact h σ.length _ _ rest (stillSound.make stand span)

theorem mapM {ι ι' : Type} {f : ι → Except Fault β} {g : ι' → Making α} {l : List ι} {l' : List ι'}
    (h : List.Forall₂ (fun a b => Follows covered γ 0 (f a) (g b)) l l') :
    Follows covered (List γ) 0 (l.mapM f) (l'.mapM g) := by
  induction h with
  | nil => exact .pure [] le_rfl
  | cons first _ ih =>
    rw [List.mapM_cons, List.mapM_cons]
    refine .bind first fun c => .bind ih fun cs => .pure (c :: cs) (le_of_eq ?_)
    rw [owned_cons]
    abel

end Follows

end PropOrder.Assembly
