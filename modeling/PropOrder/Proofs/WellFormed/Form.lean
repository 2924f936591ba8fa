import PropOrder.Proofs.WellFormed

/-!
# Rules that make well-formed nodes

A rule is sound if it makes well-formed nodes out of parts that became well-formed nodes, and fails
only with faults that there is a reason for. The statements of this module are the steps that such
proofs are made of: what the readers of a form give, and when a node with given fields is well
formed. For each sort of field there is one statement that says that it fits its layout
(`fits_child`, `fits_list`, `fits_flag`, …).
-/

namespace PropOrder
variable {source : SourceText}

/-! ### Fields that fit -/

/-- A field that fits the layout of a kind of node, and holds well-formed nodes only. -/
structure FieldFits (source : SourceText) (kind : String) (spelled : Text)
    (field : String × Slot Node) : Prop where
  known : ∃ c, contentOf kind field.1 = some c ∧ c.Allows spelled field.2
  under : ∀ n ∈ field.2.nodeList, n.WellFormed source

section Fits
variable {kind name : String} {spelled : Text}

theorem fits_child {o : Option Node} (ho : ∀ n ∈ o, n.WellFormed source)
    (hc : contentOf kind name = some .child) :
    FieldFits source kind spelled (name, .ofOption o) := by
  cases o with
  | none =>
    exact ⟨⟨_, hc, .inl rfl⟩, by simp [Slot.ofOption, Slot.nodeList, Slot.entries, Entry.node?]⟩
  | some n =>
    refine ⟨⟨_, hc, .inr ⟨n, rfl, by simp⟩⟩, fun m hm => ?_⟩
    obtain rfl := List.mem_singleton.1 hm
    exact ho m rfl

theorem fits_node {n : Node} {content : Option String} (hn : n.WellFormed source)
    (hk : ∀ k ∈ content, n.kind = k) (hc : contentOf kind name = some (.node content)) :
    FieldFits source kind spelled (name, .node n) := by
  refine ⟨⟨_, hc, .inr ⟨n, rfl, hk⟩⟩, fun m hm => ?_⟩
  obtain rfl := List.mem_singleton.1 hm
  exact hn

theorem fits_one {n : Node} (hn : n.WellFormed source) (hc : contentOf kind name = some .child) :
    FieldFits source kind spelled (name, .node n) :=
  fits_node hn (by simp) hc

theorem fits_ofKind {n : Node} {k : String} (hn : n.WellFormed source ∧ n.kind = k)
    (hc : contentOf kind name = some (.node (some k))) :
    FieldFits source kind spelled (name, .node n) :=
  fits_node hn.1 (by simpa using hn.2) hc

theorem fits_null {content : Option String} (hc : contentOf kind name = some (.node content)) :
    FieldFits source kind spelled (name, .null) :=
  ⟨⟨_, hc, .inl rfl⟩, by simp [Slot.nodeList, Slot.entries, Entry.node?]⟩

theorem fits_nodes {ns : List Node} {content : Option String}
    (hn : ∀ n ∈ ns, n.WellFormed source ∧ ∀ k ∈ content, n.kind = k)
    (hc : contentOf kind name = some (.nodes content)) :
    FieldFits source kind spelled (name, .nodes ns) := by
  refine ⟨⟨_, hc, ns, rfl, fun n h => (hn n h).2⟩, fun n h => ?_⟩
  exact (hn n (Slot.nodeList_nodes ns ▸ h)).1

theorem fits_list {ns : List Node} (hn : ∀ n ∈ ns, n.WellFormed source)
    (hc : contentOf kind name = some .list) : FieldFits source kind spelled (name, .nodes ns) :=
  fits_nodes (fun n h => ⟨hn n h, by simp⟩) hc

theorem fits_allOfKind {ns : List Node} {k : String}
    (hn : ∀ n ∈ ns, n.WellFormed source ∧ n.kind = k)
    (hc : contentOf kind name = some (.nodes (some k))) :
    FieldFits source kind spelled (name, .nodes ns) :=
  fits_nodes (fun n h => ⟨(hn n h).1, by simpa using (hn n h).2⟩) hc

theorem fits_scalar {v : Scalar} (hc : contentOf kind name = some .scalar) :
    FieldFits source kind spelled (name, .one (.scalar v)) :=
  ⟨⟨_, hc, .inr ⟨v, rfl⟩⟩, by simp [Slot.nodeList, Slot.entries, Entry.node?]⟩

theorem fits_no_scalar (hc : contentOf kind name = some .scalar) :
    FieldFits source kind spelled (name, .null) :=
  ⟨⟨_, hc, .inl rfl⟩, by simp [Slot.nodeList, Slot.entries, Entry.node?]⟩

theorem fits_text {t : Text} (hc : contentOf kind name = some .text) :
    FieldFits source kind spelled (name, .text t) :=
  ⟨⟨_, hc, t, rfl⟩, by simp [Slot.nodeList, Slot.entries, Entry.node?]⟩

theorem fits_spelling (hc : contentOf kind name = some .spelling) :
    FieldFits source kind spelled (name, .text spelled) :=
  ⟨⟨_, hc, rfl⟩, by simp [Slot.nodeList, Slot.entries, Entry.node?]⟩

theorem fits_flag {b : Bool} (hc : contentOf kind name = some .flag) :
    FieldFits source kind spelled (name, .bool b) :=
  ⟨⟨_, hc, b, rfl⟩, by simp [Slot.nodeList, Slot.entries, Entry.node?]⟩

end Fits

/-! ### Nodes -/

theorem Node.wellFormed_iff {head : Head} {fields : List (String × Slot Node)} :
    (Node.mk head fields).WellFormed source ↔
      head.location = some (source.location head.span) ∧
        ∀ field ∈ fields, FieldFits source head.kind (source.text head.span) field := by
  constructor
  · intro h
    cases h with
    | mk located known under => exact ⟨located, fun field hf => ⟨known field hf, under field hf⟩⟩
  · rintro ⟨located, h⟩
    exact .mk located (fun field hf => (h field hf).known) fun field hf => (h field hf).under

theorem mem_setField {name : String} {slot : Slot Node} {fields : List (String × Slot Node)}
    {field : String × Slot Node} (h : field ∈ Node.setField name slot fields) :
    field = (name, slot) ∨ field ∈ fields := by
  induction fields with
  | nil => exact .inl (List.mem_singleton.1 h)
  | cons f fields ih =>
    obtain ⟨other, old⟩ := f
    rw [Node.setField] at h
    split at h
    · next he =>
      rcases List.mem_cons.1 h with rfl | h
      · exact .inl (by rw [eq_of_beq he])
      · exact .inr (List.mem_cons_of_mem _ h)
    · rcases List.mem_cons.1 h with rfl | h
      · exact .inr (List.mem_cons_self ..)
      · exact (ih h).imp_right (List.mem_cons_of_mem _)

/-- A field that fits may be set. -/
theorem Node.WellFormed.set {n : Node} {name : String} {slot : Slot Node}
    (h : n.WellFormed source) (fits : FieldFits source n.kind (source.text n.span) (name, slot)) :
    (n.set name slot).WellFormed source := by
  obtain ⟨head, fields⟩ := n
  obtain ⟨located, fit⟩ := Node.wellFormed_iff.1 h
  refine Node.wellFormed_iff.2 ⟨located, fun field hf => ?_⟩
  rcases mem_setField hf with rfl | hf
  · exact fits
  · exact fit field hf

namespace Conversion
variable {why : Fault → Prop}

/-- A part that became a well-formed node, unless there is a reason why not, and so for all parts
under it. An instantiation of nothing is a reason. -/
inductive PartSound (why : Fault → Prop) (source : SourceText) : Converted → Prop
  | mk {head : ConcreteHead} {value : Except Fault Node} {parts : List Converted}
    (made : ReturnsUnless why value (Node.WellFormed source))
    (bare : head.kind = "instantiation_expression" → parts.filter Part.isConstituent = [] →
      why .noSuchItem)
    (inside : ∀ p ∈ parts, PartSound why source p) : PartSound why source (.mk head value parts)

namespace PartSound
variable {p q : Converted}

theorem value (h : PartSound why source p) :
    ReturnsUnless why p.value (Node.WellFormed source) := by
  cases h with
  | mk made bare inside => exact made

theorem bare (h : PartSound why source p) (hk : p.kind = "instantiation_expression")
    (hc : p.constituents = []) : why .noSuchItem := by
  cases h with
  | mk made bare inside => exact bare hk hc

theorem part (h : PartSound why source p) (hq : q ∈ p.parts) : PartSound why source q := by
  cases h with
  | mk made bare inside => exact inside q hq

theorem constituent (h : PartSound why source p) (hq : q ∈ p.constituents) :
    PartSound why source q :=
  h.part (List.mem_of_mem_filter hq)

theorem child? {field : String} (h : PartSound why source p) (hq : p.child? field = some q) :
    PartSound why source q :=
  h.part (List.mem_of_find?_eq_some hq)

end PartSound

namespace Form
variable {f : Form} {p : Converted}

/-- A form all of whose parts are sound. -/
def Sound (why : Fault → Prop) (f : Form) : Prop := ∀ p ∈ f.parts, PartSound why f.source p

theorem Sound.constituent (h : f.Sound why) (hp : p ∈ f.constituents) :
    PartSound why f.source p :=
  h p (List.mem_of_mem_filter hp)

theorem Sound.child? {name : String} (h : f.Sound why) (hp : f.child? name = some p) :
    PartSound why f.source p :=
  h p (List.mem_of_find?_eq_some hp)

theorem Sound.inside (h : PartSound why f.source p) : (f.inside p).Sound why :=
  fun _ hq => h.part hq

/-! ### What the readers of a form give -/

theorem returnsUnless_converted {o : Option Converted} (h : ∀ p ∈ o, PartSound why source p) :
    ReturnsUnless why (converted o) fun n? => ∀ n ∈ n?, n.WellFormed source := by
  cases o with
  | none => exact .pure (by simp)
  | some p =>
    show ReturnsUnless why (p.value >>= fun n => pure (some n)) _
    exact .bind (h p rfl).value fun n hn => .pure (by simpa using hn)

theorem Sound.field (h : f.Sound why) (name : String) :
    ReturnsUnless why (f.field name) fun n? => ∀ n ∈ n?, n.WellFormed f.source :=
  returnsUnless_converted fun _ hp => h.child? hp

theorem Sound.firstConstituent (h : f.Sound why) :
    ReturnsUnless why f.firstConstituent fun n? => ∀ n ∈ n?, n.WellFormed f.source :=
  returnsUnless_converted fun _ hp => h.constituent (List.mem_of_mem_head? hp)

theorem returnsUnless_values {ps : List Converted} (h : ∀ p ∈ ps, PartSound why source p) :
    ReturnsUnless why (ps.mapM Part.value) fun ns => ∀ n ∈ ns, n.WellFormed source :=
  .mapM fun p hp => (h p hp).value

theorem Sound.allConstituents (h : f.Sound why) :
    ReturnsUnless why f.allConstituents fun ns => ∀ n ∈ ns, n.WellFormed f.source :=
  returnsUnless_values fun _ hp => h.constituent hp

/-! ### Nodes over a span -/

/-- A node whose fields all fit is well formed. -/
theorem wellFormed_nodeAt {span : Span} {kind : String} {fields : List (String × Slot Node)}
    (h : fields.Forall (FieldFits f.source kind (f.source.text span))) :
    (f.nodeAt span kind fields).WellFormed f.source :=
  Node.wellFormed_iff.2 ⟨rfl, List.forall_iff_forall_mem.1 h⟩

theorem wellFormed_node {kind : String} {fields : List (String × Slot Node)}
    (h : fields.Forall (FieldFits f.source kind f.text)) :
    (f.node kind fields).WellFormed f.source :=
  wellFormed_nodeAt h

theorem returnsUnless_typeOf (h : PartSound why f.source p) :
    ReturnsUnless why (f.typeOf p) (Node.WellFormed f.source) := by
  refine .bind h.value fun n hn => .ite (fun _ => .pure ?_) fun _ => .pure hn
  exact wellFormed_nodeAt (fits_one hn rfl)

theorem returnsUnless_typeOf? {o : Option Converted} (h : ∀ p ∈ o, PartSound why f.source p) :
    ReturnsUnless why (f.typeOf? o) fun n? => ∀ n ∈ n?, n.WellFormed f.source := by
  cases o with
  | none => exact .pure (by simp)
  | some p =>
    show ReturnsUnless why (f.typeOf p >>= fun n => pure (some n)) _
    exact .bind (returnsUnless_typeOf (h p rfl)) fun n hn => .pure (by simpa using hn)

theorem returnsUnless_keyOf {o : Option Converted} (h : ∀ p ∈ o, PartSound why source p) :
    ReturnsUnless why (keyOf o) fun key => ∀ n ∈ key.1, n.WellFormed source := by
  cases o with
  | none => exact .pure (by simp)
  | some p =>
    have hp := h p rfl
    refine .ite (fun _ => ?_) fun _ => ?_
    · refine .bind (returnsUnless_converted fun q hq => ?_) fun n? hn => .pure hn
      exact hp.constituent (List.mem_of_mem_head? hq)
    · exact .bind hp.value fun n hn => .pure (by simpa using hn)

end Form

/-- A rule that makes well-formed nodes of sound forms. -/
def RuleSound (why : Fault → Prop) (rule : Rule) : Prop :=
  ∀ f : Form, f.Sound why → ReturnsUnless why (rule f) (Node.WellFormed f.source)

/-! ### Rules of one shape -/

section Shapes
open Form
variable {kind name other : String}

/-- A rule that only keeps the first constituent. -/
theorem ruleSound_first (hc : contentOf kind name = some .child) :
    RuleSound why fun f => do return f.node kind [(name, .ofOption (← f.firstConstituent))] := by
  intro f h
  exact .bind h.firstConstituent fun n hn => .pure (wellFormed_node (fits_child hn hc))

/-- A rule that only keeps the list of constituents. -/
theorem ruleSound_all (hc : contentOf kind name = some .list) :
    RuleSound why fun f => do return f.node kind [(name, .nodes (← f.allConstituents))] := by
  intro f h
  exact .bind h.allConstituents fun ns hn => .pure (wellFormed_node (fits_list hn hc))

/-- A rule that only keeps two of the fields. -/
theorem ruleSound_two {first second : String} (hc : contentOf kind name = some .child)
    (hc' : contentOf kind other = some .child) :
    RuleSound why fun f => do
      let n ← f.field first
      let m ← f.field second
      return f.node kind [(name, .ofOption n), (other, .ofOption m)] := by
  intro f h
  refine .bind (h.field first) fun n hn => .bind (h.field second) fun m hm => .pure ?_
  exact wellFormed_node ⟨fits_child hn hc, fits_child hm hc'⟩

end Shapes

end Conversion

end PropOrder
