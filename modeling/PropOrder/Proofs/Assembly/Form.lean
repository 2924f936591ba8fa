import PropOrder.Proofs.Assembly.Follow

/-!
# Drafts follow forms

A draft follows a form if its parts do, one for one (`FormFollows`). Then what a draft is asked for
follows what the form is asked for, and so does what is made of the answers: a rule that only asks
for the fields of its node, one after the other, follows the rule of the conversion that asks for
the same (`FormFollows.holding`).
-/

namespace PropOrder.Assembly

open Conversion (Converted Form)
open Carrier (refs nodes owned)

/-! ### Lists -/

section Lists
variable {α β : Type} {R : α → β → Prop} {l : List α} {l' : List β}

theorem rel_head? (h : List.Forall₂ R l l') : Option.Rel R l.head? l'.head? := by
  cases h with
  | nil => exact .none
  | cons hab _ => exact .some hab

theorem rel_getElem? (h : List.Forall₂ R l l') (i : ℕ) : Option.Rel R l[i]? l'[i]? := by
  induction h generalizing i with
  | nil => exact .none
  | cons hab _ ih =>
    cases i with
    | zero => exact .some hab
    | succ i => exact ih i

theorem isSome_eq {o : Option α} {o' : Option β} (h : Option.Rel R o o') :
    o'.isSome = o.isSome := by
  cases h with
  | none => rfl
  | some _ => rfl

theorem rel_or {o₁ o₂ : Option α} {o₁' o₂' : Option β} (h₁ : Option.Rel R o₁ o₁')
    (h₂ : Option.Rel R o₂ o₂') : Option.Rel R (o₁.or o₂) (o₁'.or o₂') := by
  cases h₁ with
  | none => exact h₂
  | some h => exact .some h

end Lists

/-! ### Parts and drafts -/

/-- A part whose making follows what it became, and so for all parts under it. -/
inductive PartFollows (covered : Span → Prop) : Converted → Pending → Prop
  | mk {head : ConcreteHead} {value : Except Fault Node} {making : Making Ref}
    {parts : List Converted} {pending : List Pending}
    (follows : Follows covered Held 0 value making) (span : covered head.span)
    (inside : List.Forall₂ (PartFollows covered) parts pending) :
    PartFollows covered (.mk head value parts) (.mk head making pending)

/-- A draft whose parts follow those of a form. -/
structure FormFollows (covered : Span → Prop) (f : Form) (d : Draft) : Prop where
  source : d.source = f.source
  head : d.head = f.head
  span : covered f.head.span
  parts : List.Forall₂ (PartFollows covered) f.parts d.parts

variable {covered : Span → Prop} {f : Form} {d : Draft} {p : Converted} {q : Pending}
  {held owned₁ : Multiset Held}

namespace PartFollows

theorem head (h : PartFollows covered p q) : q.head = p.head := by
  cases h
  rfl

theorem value (h : PartFollows covered p q) : Follows covered Held 0 p.value q.value := by
  cases h with
  | mk follows span inside => exact follows

theorem covers (h : PartFollows covered p q) : covered p.span := by
  cases h with
  | mk follows span inside => exact span

theorem parts (h : PartFollows covered p q) :
    List.Forall₂ (PartFollows covered) p.parts q.parts := by
  cases h with
  | mk follows span inside => exact inside

theorem kind (h : PartFollows covered p q) : q.kind = p.kind := congrArg ConcreteHead.kind h.head

theorem spanEq (h : PartFollows covered p q) : q.span = p.span := congrArg ConcreteHead.span h.head

end PartFollows

section Kept
variable {ps : List Converted} {qs : List Pending}

/-- Parts may be picked by what the concrete nodes are. -/
theorem forall₂_filter_head (h : List.Forall₂ (PartFollows covered) ps qs)
    (keep : ConcreteHead → Bool) :
    List.Forall₂ (PartFollows covered) (ps.filter fun p => keep p.head)
      (qs.filter fun q => keep q.head) := by
  refine List.rel_filter (fun p q hpq => ?_) h
  show keep p.head = true ↔ keep q.head = true
  rw [hpq.head]

theorem rel_find?_head (h : List.Forall₂ (PartFollows covered) ps qs)
    (keep : ConcreteHead → Bool) :
    Option.Rel (PartFollows covered) (ps.find? fun p => keep p.head)
      (qs.find? fun q => keep q.head) := by
  rw [← List.head?_filter, ← List.head?_filter]
  exact rel_head? (forall₂_filter_head h keep)

theorem rel_find?_kind (h : List.Forall₂ (PartFollows covered) ps qs) (keep : String → Bool) :
    Option.Rel (PartFollows covered) (ps.find? fun p => keep p.kind)
      (qs.find? fun q => keep q.kind) :=
  rel_find?_head h fun head => keep head.kind

end Kept

namespace PartFollows

theorem constituents (h : PartFollows covered p q) :
    List.Forall₂ (PartFollows covered) p.constituents q.constituents :=
  forall₂_filter_head h.parts fun head => head.named && head.kind != "comment"

theorem child? (h : PartFollows covered p q) (name : String) :
    Option.Rel (PartFollows covered) (p.child? name) (q.child? name) :=
  rel_find?_head h.parts fun head => head.field == name

theorem inside (h : PartFollows covered p q) (hd : FormFollows covered f d) :
    FormFollows covered (f.inside p) (d.inside q) :=
  ⟨hd.source, h.head, h.covers, h.parts⟩

end PartFollows

/-! ### What a draft is asked for -/

theorem follows_mapM? {γ α β ι ι' : Type} [Carrier γ α β] {g : ι → Except Fault β}
    {g' : ι' → Making α} {R : ι → ι' → Prop} {o : Option ι} {o' : Option ι'}
    (h : Option.Rel R o o') (hg : ∀ i i', R i i' → Follows covered γ 0 (g i) (g' i')) :
    Follows covered (Option γ) 0 (o.mapM g) (o'.mapM g') := by
  cases h with
  | none => exact .pure none le_rfl
  | @some i i' hi =>
    show Follows covered (Option γ) 0 (g i >>= fun b => pure (some b))
      (g' i' >>= fun a => pure (some a))
    exact .bind (hg i i' hi) fun c => .pure (some c) (Multiset.le_add_right _ _)

theorem follows_converted {o : Option Converted} {o' : Option Pending}
    (h : Option.Rel (PartFollows covered) o o') :
    Follows covered (Option Held) 0 (Form.converted o) (Draft.converted o') :=
  follows_mapM? h fun _ _ => PartFollows.value

theorem follows_values {ps : List Converted} {qs : List Pending}
    (h : List.Forall₂ (PartFollows covered) ps qs) :
    Follows covered (List Held) 0 (ps.mapM Part.value) (qs.mapM Part.value) :=
  .mapM (h.imp fun _ _ => PartFollows.value)

theorem follows_keyOf {o : Option Converted} {o' : Option Pending}
    (h : Option.Rel (PartFollows covered) o o') :
    Follows covered (Option Held × Bool) 0 (Form.keyOf o) (Draft.keyOf o') := by
  cases h with
  | none => exact .pure (none, false) le_rfl
  | some h =>
    simp only [Form.keyOf, Draft.keyOf, h.kind]
    split
    · exact .bind (follows_converted (rel_head? h.constituents)) fun c =>
        .pure (c, true) (Multiset.le_add_right _ _)
    · exact .bind h.value fun c => .pure (some c, false) (Multiset.le_add_right _ _)

/-- What asks for what: the slots that are at hand stand for each other, and all else is the
same. -/
inductive AsksStand : List (String × Ask Ref) → List (String × Ask Node) → Multiset Held → Prop
  | nil : AsksStand [] [] 0
  | put {name : String} {slot : Slot Ref} {view : Slot Node} {owned₁ owned₂ : Multiset Held}
    {asks : List (String × Ask Ref)} {views : List (String × Ask Node)}
    (stands : SlotStands slot view owned₁) (rest : AsksStand asks views owned₂) :
    AsksStand ((name, .put slot) :: asks) ((name, .put view) :: views) (owned₁ + owned₂)
  | field {name field : String} {asks : List (String × Ask Ref)} {views : List (String × Ask Node)}
    {owned₁ : Multiset Held} (rest : AsksStand asks views owned₁) :
    AsksStand ((name, .field field) :: asks) ((name, .field field) :: views) owned₁
  | first {name : String} {asks : List (String × Ask Ref)} {views : List (String × Ask Node)}
    {owned₁ : Multiset Held} (rest : AsksStand asks views owned₁) :
    AsksStand ((name, .first) :: asks) ((name, .first) :: views) owned₁
  | all {name : String} {asks : List (String × Ask Ref)} {views : List (String × Ask Node)}
    {owned₁ : Multiset Held} (rest : AsksStand asks views owned₁) :
    AsksStand ((name, .all) :: asks) ((name, .all) :: views) owned₁

/-- What can be asked of a form. -/
def answers (f : Form) : Answers (Except Fault) Node :=
  ⟨f.field, f.firstConstituent, f.allConstituents⟩

/-- Asking for what fields hold, one after the other, follows asking for the same, if what comes
behind does. -/
def GatherFollows (covered : Span → Prop) (f : Form) (d : Draft) (asks : List (String × Ask Ref))
    (views : List (String × Ask Node)) (owned₁ : Multiset Held) : Prop :=
  ∀ (held : Multiset Held) (next : Fields Node → Except Fault Node)
    (next' : Fields Ref → Making Ref),
    (∀ fields fieldViews owned₂, FieldsStand fields fieldViews owned₂ →
      Follows covered Held (owned₂ + held) (next fieldViews) (next' fields)) →
    Follows covered Held (owned₁ + held) (gather (answers f) views next)
      (gather d.answers asks next')

/-- What is at hand stays in the hands until all else has been asked for. -/
theorem GatherFollows.put {asks : List (String × Ask Ref)} {views : List (String × Ask Node)}
    {name : String} {slot : Slot Ref} {view : Slot Node} {owned₂ : Multiset Held}
    (h : GatherFollows covered f d asks views owned₁) (stands : SlotStands slot view owned₂) :
    GatherFollows covered f d ((name, .put slot) :: asks) ((name, .put view) :: views)
      (owned₂ + owned₁) := by
  intro held next next' hnext
  have rest := h (owned₂ + held) (fun fs => next ((name, view) :: fs))
    (fun fs => next' ((name, slot) :: fs)) fun fields fieldViews owned₃ stand =>
      (hnext _ _ _ (.cons stands stand)).mono (le_of_eq (by abel))
  exact rest.mono (le_of_eq (by abel))

namespace FormFollows
variable (h : FormFollows covered f d)
include h

theorem kind : d.kind = f.kind := congrArg ConcreteHead.kind h.head

theorem text : d.text = f.text := by
  rw [Draft.text, Form.text, Form.span, h.source, h.head]

theorem constituents : List.Forall₂ (PartFollows covered) f.constituents d.constituents :=
  forall₂_filter_head h.parts fun head => head.named && head.kind != "comment"

theorem child? (name : String) :
    Option.Rel (PartFollows covered) (f.child? name) (d.child? name) :=
  rel_find?_head h.parts fun head => head.field == name

theorem hasToken (token : String) : d.hasToken token = f.hasToken token := by
  have found := rel_find?_head h.parts fun head => !head.named && head.kind == token
  rw [Draft.hasToken, Form.hasToken, ← List.isSome_find?, ← List.isSome_find?]
  exact isSome_eq found

theorem field (name : String) : Follows covered (Option Held) 0 (f.field name) (d.field name) :=
  follows_converted (h.child? name)

theorem firstConstituent :
    Follows covered (Option Held) 0 f.firstConstituent d.firstConstituent :=
  follows_converted (rel_head? h.constituents)

theorem allConstituents : Follows covered (List Held) 0 f.allConstituents d.allConstituents :=
  follows_values h.constituents

/-! ### What is made -/

theorem makeAt {span : Span} {kind : String} {fields : Fields Ref} {views : Fields Node}
    (span_covered : covered span) (stand : FieldsStand fields views owned₁) (le : owned₁ ≤ held) :
    Follows covered Held held (pure (f.nodeAt span kind views)) (d.makeAt span kind fields) := by
  rw [Draft.makeAt, h.source]
  exact .makeObject stand le span_covered

theorem makeAt_then {γ α β : Type} [Carrier γ α β] {span : Span} {kind : String}
    {fields : Fields Ref} {views : Fields Node} {m : Except Fault β} {next : Ref → Making α}
    (span_covered : covered span) (stand : FieldsStand fields views owned₁) (le : owned₁ ≤ held)
    (hn : ∀ r : Ref, Follows covered γ (owned (r, f.nodeAt span kind views)) m (next r)) :
    Follows covered γ held m (d.makeAt span kind fields >>= next) := by
  rw [Draft.makeAt, h.source]
  exact .makeObject_then stand le span_covered hn

theorem make {kind : String} {fields : Fields Ref} {views : Fields Node}
    (stand : FieldsStand fields views owned₁) (le : owned₁ ≤ held) :
    Follows covered Held held (pure (f.node kind views)) (d.make kind fields) := by
  rw [Draft.make, h.head]
  exact h.makeAt h.span stand le

theorem make_then {γ α β : Type} [Carrier γ α β] {kind : String} {fields : Fields Ref}
    {views : Fields Node} {m : Except Fault β} {next : Ref → Making α}
    (stand : FieldsStand fields views owned₁) (le : owned₁ ≤ held)
    (hn : ∀ r : Ref, Follows covered γ (owned (r, f.node kind views)) m (next r)) :
    Follows covered γ held m (d.make kind fields >>= next) := by
  rw [Draft.make, h.head]
  exact h.makeAt_then h.span stand le hn

theorem typeOf (hp : PartFollows covered p q) :
    Follows covered Held 0 (f.typeOf p) (d.typeOf q) := by
  refine .bind hp.value fun c => ?_
  rw [hp.kind, hp.spanEq]
  split
  · exact h.makeAt hp.covers (.cons (.node c) .nil) le_rfl
  · exact .pure c (Multiset.le_add_right _ _)

theorem typeOf? {o : Option Converted} {o' : Option Pending}
    (ho : Option.Rel (PartFollows covered) o o') :
    Follows covered (Option Held) 0 (f.typeOf? o) (d.typeOf? o') :=
  follows_mapM? ho fun _ _ => h.typeOf

theorem gather {asks : List (String × Ask Ref)} {views : List (String × Ask Node)}
    (stand : AsksStand asks views owned₁) : GatherFollows covered f d asks views owned₁ := by
  -- an answer is put into its field, so that only what is at hand makes a step of its own
  induction stand with
  | nil => exact fun held next next' hnext => hnext [] [] 0 .nil
  | put stands rest ih => exact ih.put stands
  | field rest ih =>
    intro held next next' hnext
    refine .bind (h.field _) fun c => ?_
    exact (ih.put (.option c) held next next' hnext).mono (le_of_eq (by abel))
  | first rest ih =>
    intro held next next' hnext
    refine .bind h.firstConstituent fun c => ?_
    exact (ih.put (.option c) held next next' hnext).mono (le_of_eq (by abel))
  | all rest ih =>
    intro held next next' hnext
    refine .bind h.allConstituents fun c => ?_
    exact (ih.put (.list c) held next next' hnext).mono (le_of_eq (by abel))

/-- Making an object whose fields hold what is asked for follows any conversion that comes down to
asking for the same. -/
theorem holding {kind : String} {asks : List (String × Ask Ref)} {views : List (String × Ask Node)}
    {m : Except Fault Node} (stand : AsksStand asks views owned₁)
    (same : m = Assembly.gather (answers f) views fun fields => pure (f.node kind fields))
    (le : owned₁ ≤ held) : Follows covered Held held m (d.holding kind asks) := by
  have all : Follows covered Held (owned₁ + 0) m (d.holding kind asks) :=
    same ▸ h.gather stand 0 _ _ fun _ _ _ stand => h.make stand (Multiset.le_add_right _ _)
  exact all.mono (by rwa [add_zero])

end FormFollows

/-- A rule whose makings follow the conversion by another rule. -/
def RuleFollows (rule : Conversion.Rule) (making : Rule) : Prop :=
  ∀ covered f d, FormFollows covered f d → Follows covered Held 0 (rule f) (making d)

end PropOrder.Assembly
