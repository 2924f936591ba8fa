import PropOrder.Conversion.Form
import PropOrder.Proofs.Outcome

/-!
# Trees with comments put in

One concrete tree is another with comments put in (`Commented`) if its nodes are the same, but for
comments among the children. Where they may stand is left open: a place is told by the kind of the
parent and by what its children are in front of the comment and behind it.

A rule is given the parts of a node, and so the statements of this module are about forms whose
parts are the same but for comments: what the readers of a form give is the same, as long as they
look for a field, for a fixed token or for constituents.
-/

namespace PropOrder

/-- A node that is a comment, held under no field. -/
structure ConcreteHead.IsComment (h : ConcreteHead) : Prop where
  named : h.named = true
  kind : h.kind = "comment"
  field : h.field = ""

/-- A spot among the children of a node: the kind of the node, and the children in front. -/
structure Spot where
  /-- The name of the kind of the node. -/
  kind : String
  /-- The children in front of the spot. -/
  front : List ConcreteHead

/-- The spot behind the next child. -/
def Spot.pass (s : Spot) (h : ConcreteHead) : Spot := ⟨s.kind, s.front ++ [h]⟩

/-- The spots where comments may be put, given the children behind them. -/
abbrev Place := Spot → List ConcreteHead → Prop

/-- One list of children is another with comments put in, from a spot on. -/
inductive Inserted {α : Type} (R : α → α → Prop) (head : α → ConcreteHead) (place : Place) :
    Spot → List α → List α → Prop
  /-- Nothing is left. -/
  | nil {s : Spot} : Inserted R head place s [] []
  /-- A child that was there. -/
  | keep {s : Spot} {a b : α} {l l' : List α} (same : R a b)
    (rest : Inserted R head place (s.pass (head a)) l l') :
    Inserted R head place s (a :: l) (b :: l')
  /-- A comment that is put in. -/
  | comment {s : Spot} {c : α} {l l' : List α} (isComment : (head c).IsComment)
    (free : place s (l.map head)) (rest : Inserted R head place s l l') :
    Inserted R head place s l (c :: l')

/-- One concrete tree is another with comments put in. -/
inductive Commented (place : Place) : Concrete → Concrete → Prop
  | mk {head : ConcreteHead} {ts ts' : List Concrete}
    (inserted : Inserted (Commented place) Concrete.head place ⟨head.kind, []⟩ ts ts') :
    Commented place (.mk head ts) (.mk head ts')

/-! ### Lists -/

section Lists
variable {α β : Type} {R : α → α → Prop} {head : α → ConcreteHead} {place : Place} {s : Spot}
  {l l' : List α}

theorem Inserted.refl (h : ∀ a ∈ l, R a a) : Inserted R head place s l l := by
  induction l generalizing s with
  | nil => exact .nil
  | cons a l ih =>
    exact .keep (h a (List.mem_cons_self ..)) (ih fun b hb => h b (List.mem_cons_of_mem _ hb))

/-- What drops comments leaves the same. -/
theorem Inserted.filter (h : Inserted R head place s l l') {keep : α → Bool}
    (drop : ∀ c, (head c).IsComment → keep c = false) (same : ∀ a b, R a b → keep b = keep a) :
    List.Forall₂ R (l.filter keep) (l'.filter keep) := by
  induction h with
  | nil => exact .nil
  | @keep s a b l l' hab _ ih =>
    rw [List.filter_cons, List.filter_cons, same a b hab]
    split
    · exact .cons hab ih
    · exact ih
  | comment isComment _ _ ih => rwa [List.filter_cons, drop _ isComment]

theorem rel_head?_of_forall₂ (h : List.Forall₂ R l l') : Option.Rel R l.head? l'.head? := by
  cases h with
  | nil => exact .none
  | cons hab _ => exact .some hab

theorem Inserted.find? (h : Inserted R head place s l l') {keep : α → Bool}
    (drop : ∀ c, (head c).IsComment → keep c = false) (same : ∀ a b, R a b → keep b = keep a) :
    Option.Rel R (l.find? keep) (l'.find? keep) := by
  rw [← List.head?_filter, ← List.head?_filter]
  exact rel_head?_of_forall₂ (h.filter drop same)

theorem isSome_eq_of_rel {o o' : Option α} (h : Option.Rel R o o') : o'.isSome = o.isSome := by
  cases h with
  | none => rfl
  | some _ => rfl

theorem mapM_eq_of_forall₂ {g g' : α → Except Fault β} (h : List.Forall₂ R l l')
    (hg : ∀ a b, R a b → g' b = g a) : l'.mapM g' = l.mapM g := by
  induction h with
  | nil => rfl
  | cons hab _ ih => rw [List.mapM_cons, List.mapM_cons, hg _ _ hab, ih]

theorem Inserted.map {γ : Type} {S : γ → γ → Prop} {head' : γ → ConcreteHead} {g : α → γ}
    (h : Inserted R head place s l l') (heads : ∀ a, head' (g a) = head a)
    (hg : ∀ a ∈ l, ∀ b, R a b → S (g a) (g b)) :
    Inserted S head' place s (l.map g) (l'.map g) := by
  induction h with
  | nil => exact .nil
  | @keep s a b l l' hab _ ih =>
    refine .keep (hg a (List.mem_cons_self ..) b hab) ?_
    rw [heads]
    exact ih fun a ha => hg a (List.mem_cons_of_mem _ ha)
  | comment isComment free _ ih =>
    refine .comment (by rwa [heads]) ?_ (ih hg)
    rw [List.map_map]
    simpa only [Function.comp_def, heads] using free

end Lists

/-- A tree is itself with no comments put in. -/
theorem Commented.refl {place : Place} : (tree : Concrete) → Commented place tree tree
  | .mk _ _ => .mk (.refl fun t _ => Commented.refl t)

namespace Conversion

/-- A part that is the same, what it became included, but for comments among the parts under
it. -/
inductive PartAlike (place : Place) : Converted → Converted → Prop
  | mk {head : ConcreteHead} {value : Except Fault Node} {parts parts' : List Converted}
    (inserted : Inserted (PartAlike place) Part.head place ⟨head.kind, []⟩ parts parts') :
    PartAlike place (.mk head value parts) (.mk head value parts')

/-- A form that is the same but for comments among its parts. -/
structure FormAlike (place : Place) (f f' : Form) : Prop where
  source : f'.source = f.source
  head : f'.head = f.head
  parts : Inserted (PartAlike place) Part.head place ⟨f.head.kind, []⟩ f.parts f'.parts

variable {place : Place}

namespace PartAlike
variable {p p' : Converted}

theorem head (h : PartAlike place p p') : p'.head = p.head := by
  cases h
  rfl

theorem value (h : PartAlike place p p') : p'.value = p.value := by
  cases h
  rfl

theorem kind (h : PartAlike place p p') : p'.kind = p.kind := congrArg ConcreteHead.kind h.head

theorem span (h : PartAlike place p p') : p'.span = p.span := congrArg ConcreteHead.span h.head

theorem inserted (h : PartAlike place p p') :
    Inserted (PartAlike place) Part.head place ⟨p.head.kind, []⟩ p.parts p'.parts := by
  cases h with
  | mk inserted => exact inserted

end PartAlike

/-! ### What the readers of a form give -/

section Readers
variable {f f' : Form} {p p' : Converted}

theorem isConstituent_eq (h : PartAlike place p p') : p'.isConstituent = p.isConstituent := by
  rw [Part.isConstituent, Part.isConstituent, h.kind, h.head]

theorem isConstituent_comment (h : p.head.IsComment) : p.isConstituent = false := by
  rw [Part.isConstituent, Part.kind, h.kind]
  simp

theorem field_eq (name : String) (h : PartAlike place p p') :
    (p'.head.field == name) = (p.head.field == name) := by
  rw [h.head]

theorem field_comment {name : String} (hn : name ≠ "") (h : p.head.IsComment) :
    (p.head.field == name) = false := by
  rw [h.field]
  exact beq_false_of_ne hn.symm

namespace PartAlike

theorem constituents (h : PartAlike place p p') :
    List.Forall₂ (PartAlike place) p.constituents p'.constituents :=
  h.inserted.filter (fun _ => isConstituent_comment) fun _ _ => isConstituent_eq

theorem child? (h : PartAlike place p p') {name : String} (hn : name ≠ "") :
    Option.Rel (PartAlike place) (p.child? name) (p'.child? name) :=
  h.inserted.find? (fun _ => field_comment hn) fun _ _ => field_eq name

theorem inside (h : PartAlike place p p') (hf : FormAlike place f f') :
    FormAlike place (f.inside p) (f'.inside p') :=
  ⟨hf.source, h.head, h.inserted⟩

end PartAlike

theorem converted_eq {o o' : Option Converted} (h : Option.Rel (PartAlike place) o o') :
    Form.converted o' = Form.converted o := by
  cases h with
  | none => rfl
  | some h => exact congrArg (·.map some) h.value

theorem values_eq {ps ps' : List Converted} (h : List.Forall₂ (PartAlike place) ps ps') :
    ps'.mapM Part.value = ps.mapM Part.value :=
  mapM_eq_of_forall₂ h fun _ _ => PartAlike.value

theorem forall₂_filter_kind {ps ps' : List Converted} (h : List.Forall₂ (PartAlike place) ps ps')
    (keep : String → Bool) : List.Forall₂ (PartAlike place) (ps.filter fun p => keep p.kind)
      (ps'.filter fun p => keep p.kind) :=
  List.rel_filter (fun a b hab => show keep a.kind = true ↔ keep b.kind = true by rw [hab.kind]) h

theorem rel_find?_kind {ps ps' : List Converted} (h : List.Forall₂ (PartAlike place) ps ps')
    (keep : String → Bool) : Option.Rel (PartAlike place) (ps.find? fun p => keep p.kind)
      (ps'.find? fun p => keep p.kind) := by
  rw [← List.head?_filter, ← List.head?_filter]
  exact rel_head?_of_forall₂ (forall₂_filter_kind h keep)

namespace FormAlike
variable (h : FormAlike place f f')
include h

theorem kind : f'.kind = f.kind := congrArg ConcreteHead.kind h.head

theorem text : f'.text = f.text := by
  rw [Form.text, Form.text, Form.span, Form.span, h.source, h.head]

theorem nodeAt (span : Span) (kind : String) (fields : List (String × Slot Node)) :
    f'.nodeAt span kind fields = f.nodeAt span kind fields := by
  rw [Form.nodeAt, Form.nodeAt, h.source]

theorem node (kind : String) (fields : List (String × Slot Node)) :
    f'.node kind fields = f.node kind fields := by
  rw [Form.node, Form.node, h.nodeAt, Form.span, Form.span, h.head]

theorem constituents : List.Forall₂ (PartAlike place) f.constituents f'.constituents :=
  h.parts.filter (fun _ => isConstituent_comment) fun _ _ => isConstituent_eq

theorem child? {name : String} (hn : name ≠ "") :
    Option.Rel (PartAlike place) (f.child? name) (f'.child? name) :=
  h.parts.find? (fun _ => field_comment hn) fun _ _ => field_eq name

theorem hasToken (token : String) : f'.hasToken token = f.hasToken token := by
  have found := h.parts.find?
    (fun c hc => show c.isToken token = false by simp [Part.isToken, hc.named])
    fun a b hab => by rw [Part.isToken, Part.isToken, hab.head, hab.kind]
  rw [Form.hasToken, Form.hasToken, ← List.isSome_find?, ← List.isSome_find?]
  exact isSome_eq_of_rel found

theorem field {name : String} (hn : name ≠ "") : f'.field name = f.field name :=
  converted_eq (h.child? hn)

theorem firstConstituent : f'.firstConstituent = f.firstConstituent :=
  converted_eq (rel_head?_of_forall₂ h.constituents)

theorem allConstituents : f'.allConstituents = f.allConstituents := values_eq h.constituents

theorem typeOf (hp : PartAlike place p p') : f'.typeOf p' = f.typeOf p := by
  simp only [Form.typeOf, hp.value, hp.kind, hp.span, h.nodeAt]

theorem typeOf? {o o' : Option Converted} (ho : Option.Rel (PartAlike place) o o') :
    f'.typeOf? o' = f.typeOf? o := by
  cases ho with
  | none => rfl
  | some hp => exact congrArg (·.map some) (h.typeOf hp)

end FormAlike

theorem keyOf_eq {o o' : Option Converted} (ho : Option.Rel (PartAlike place) o o') :
    Form.keyOf o' = Form.keyOf o := by
  cases ho with
  | none => rfl
  | some hp =>
    simp only [Form.keyOf, hp.kind, hp.value,
      converted_eq (rel_head?_of_forall₂ hp.constituents)]

end Readers

/-- A rule that gives the same for forms that are the same but for comments. -/
def RuleSame (place : Place) (rule : Rule) : Prop :=
  ∀ f f', FormAlike place f f' → rule f' = rule f

end Conversion

end PropOrder
