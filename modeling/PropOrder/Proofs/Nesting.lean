import PropOrder.Conversion
import PropOrder.Proofs.Token

/-!
# Spans that nest

A node of a program nests if its span is a known one and contains the spans of its children, and if
its children nest in turn. There is one exception: the annotation of a parameter stands beside the
pattern of the parameter in the source and is put on the pattern, so that it lies inside the
function, but not inside the pattern. `Role` says what a node is to the function around it, and with
it how far away its annotation may lie.

A rule nests if it makes nodes that nest, inside the span of the concrete node, out of parts that
became such nodes. The steps that the proofs of this are made of follow: what the readers of a form
give, and when a node with given fields nests.
-/

namespace PropOrder

/-! ### Roles -/

/-- Whether a node is a function of any form. -/
def Head.isFunctionLike (head : Head) : Bool :=
  head.kind == "FunctionDeclaration" || head.kind == "FunctionExpression" ||
    head.kind == "ArrowFunctionExpression"

/-- What a node is to the function around it. -/
inductive Role where
  /-- Nothing in particular. -/
  | plain
  /-- A parameter of the function over the span. -/
  | parameter (function : Span)
  /-- The pattern of a parameter that has a default, of the function over the span. -/
  | pattern (function : Span)

namespace Role

/-- The span of the function that a node is a parameter of. -/
def function? : Role → Option Span
  | plain => none
  | parameter function => some function
  | pattern function => some function

/-- What a node in a field is to the function around it. -/
def below (role : Role) (head : Head) (field : String) : Role :=
  if head.isFunctionLike && field == "params" then .parameter head.span
  else
    match role with
    | .parameter function =>
      if head.kind == "AssignmentPattern" && field == "left" then .pattern function else .plain
    | _ => .plain

theorem below_of_params {role : Role} {head : Head} {field : String}
    (h : (head.isFunctionLike && field == "params") = true) :
    role.below head field = .parameter head.span := by
  unfold below
  exact if_pos h

end Role

/-! ### Nodes that nest -/

/-- A node whose span is known and contains those of its children, but for the annotation of a
parameter, which lies inside the function; and so for all nodes under it. -/
inductive Node.Nests (known : Span → Prop) : Role → Node → Prop
  | mk {role : Role} {head : Head} {fields : List (String × Slot Node)} (here : known head.span)
    (inside : ∀ field ∈ fields, ∀ n ∈ field.2.nodeList, n.span.Within head.span ∨
      (field.1 = "typeAnnotation" ∧ ∃ function ∈ role.function?, n.span.Within function))
    (under : ∀ field ∈ fields, ∀ n ∈ field.2.nodeList,
      Nests known (role.below head field.1) n) : Nests known role (.mk head fields)

/-- A node that nests, inside a span. -/
structure Node.NestsIn (known : Span → Prop) (outer : Span) (n : Node) : Prop where
  within : n.span.Within outer
  nests : n.Nests known .plain

/-- A span is that of a node of a tree. -/
def Concrete.HasSpan (tree : Concrete) (span : Span) : Prop := ∃ t ∈ tree.nodes, t.span = span

variable {known : Span → Prop} {role : Role} {outer inner : Span} {head : Head} {n : Node}
  {name : String}

/-- A field of a node all of whose nodes may stand there. -/
def FieldNests (known : Span → Prop) (role : Role) (head : Head)
    (field : String × Slot Node) : Prop :=
  ∀ n ∈ field.2.nodeList, (n.span.Within head.span ∨
    (field.1 = "typeAnnotation" ∧ ∃ function ∈ role.function?, n.span.Within function)) ∧
      n.Nests known (role.below head field.1)

namespace Node

theorem nests_iff {fields : List (String × Slot Node)} : (Node.mk head fields).Nests known role ↔
    known head.span ∧ ∀ field ∈ fields, FieldNests known role head field := by
  constructor
  · intro h
    cases h with
    | mk here inside under =>
      exact ⟨here, fun field hf n hn => ⟨inside field hf n hn, under field hf n hn⟩⟩
  · rintro ⟨here, h⟩
    exact .mk here (fun field hf n hn => (h field hf n hn).1) fun field hf n hn =>
      (h field hf n hn).2

theorem Nests.known_span (h : n.Nests known role) : known n.span := by
  cases h with
  | mk here inside under => exact here

theorem Nests.field (h : n.Nests known role) {field : String × Slot Node} (hf : field ∈ n.fields) :
    FieldNests known role n.head field := by
  obtain ⟨head, fields⟩ := n
  exact (nests_iff.1 h).2 field hf

/-- What nests by itself nests in every role. -/
theorem Nests.of_plain (h : n.Nests known .plain) (role : Role) : n.Nests known role := by
  generalize plain : Role.plain = r at h
  induction h generalizing role with
  | @mk r head fields here inside under ih =>
    subst plain
    refine .mk here (fun field hf n hn => ?_) fun field hf n hn => ?_
    · exact (inside field hf n hn).imp_right fun ⟨_, _, absurd, _⟩ => (by cases absurd)
    -- the parameters of a function have their role from it, the other nodes have none
    · have below := under field hf n hn
      by_cases params : (head.isFunctionLike && field.1 == "params") = true
      · rw [Role.below_of_params params] at below ⊢
        exact below
      · exact ih field hf n hn _ (if_neg params).symm

theorem NestsIn.trans (h : n.NestsIn known inner) (within : inner.Within outer) :
    n.NestsIn known outer :=
  ⟨Concrete.within_trans h.within within, h.nests⟩

/-- A field whose nodes may stand there may be set. -/
theorem Nests.set {slot : Slot Node} (h : n.Nests known role)
    (field : FieldNests known role n.head (name, slot)) : (n.set name slot).Nests known role := by
  obtain ⟨head, fields⟩ := n
  obtain ⟨here, h⟩ := nests_iff.1 h
  refine nests_iff.2 ⟨here, fun other hf => ?_⟩
  rcases mem_setField hf with rfl | hf
  · exact field
  · exact h other hf

end Node

namespace FieldNests

/-- Nodes that nest may stand in every field of a node that contains them. -/
theorem of_nestsIn {slot : Slot Node} (h : ∀ n ∈ slot.nodeList, n.NestsIn known head.span) :
    FieldNests known role head (name, slot) :=
  fun n hn => ⟨.inl (h n hn).within, (h n hn).nests.of_plain _⟩

theorem leaf {slot : Slot Node} (none : slot.nodeList = []) :
    FieldNests known role head (name, slot) := by
  intro n hn
  rw [show (name, slot).2.nodeList = [] from none] at hn
  cases hn

theorem one (h : n.NestsIn known head.span) : FieldNests known role head (name, .node n) := by
  refine of_nestsIn fun m hm => ?_
  obtain rfl := List.mem_singleton.1 hm
  exact h

theorem child {n? : Option Node} (h : ∀ n ∈ n?, n.NestsIn known head.span) :
    FieldNests known role head (name, .ofOption n?) := by
  cases n? with
  | none => exact leaf rfl
  | some n => exact one (h n rfl)

theorem list {ns : List Node} (h : ∀ n ∈ ns, n.NestsIn known head.span) :
    FieldNests known role head (name, .nodes ns) :=
  of_nestsIn fun n hn => h n (Slot.nodeList_nodes ns ▸ hn)

/-- The parameters of a function may have annotations anywhere in it. -/
theorem parameters {ns : List Node} (function : head.isFunctionLike = true)
    (h : ∀ n ∈ ns, n.span.Within head.span ∧ n.Nests known (.parameter head.span)) :
    FieldNests known role head ("params", .nodes ns) := by
  intro n hn
  obtain ⟨within, nests⟩ := h n (Slot.nodeList_nodes ns ▸ hn)
  refine ⟨.inl within, ?_⟩
  rwa [Role.below_of_params (by simp [function])]

/-- The annotation of a parameter may lie anywhere in the function. -/
theorem typed {function : Span} (inside : function ∈ role.function?)
    (h : n.NestsIn known function) :
    FieldNests known role head ("typeAnnotation", .node n) := by
  intro m hm
  obtain rfl := List.mem_singleton.1 hm
  exact ⟨.inr ⟨rfl, function, inside, h.within⟩, h.nests.of_plain _⟩

end FieldNests

namespace Conversion

/-- What a reading gives has a property, if it gives anything. -/
abbrev Yields {α : Type} (m : Except Fault α) (P : α → Prop) : Prop :=
  ReturnsUnless (fun _ => True) m P

theorem yields_trivial {α : Type} (m : Except Fault α) : Yields m fun _ => True := by
  cases m with
  | ok a => exact .pure trivial
  | error fault => exact .throw trivial

/-! ### Parts that nest -/

/-- A part that became a node that nests inside it, if it became one, with parts that lie inside it
and nest. -/
inductive PartNests (known : Span → Prop) : Converted → Prop
  | mk {head : ConcreteHead} {value : Except Fault Node} {parts : List Converted}
    (here : known head.span) (made : Yields value (Node.NestsIn known head.span))
    (inside : ∀ p ∈ parts, p.span.Within head.span) (under : ∀ p ∈ parts, PartNests known p) :
    PartNests known (.mk head value parts)

/-- A part that nests, inside a span. -/
structure PartNestsIn (known : Span → Prop) (outer : Span) (p : Converted) : Prop where
  within : p.span.Within outer
  nests : PartNests known p

namespace PartNestsIn
variable {p q : Converted}

theorem known_span (h : PartNestsIn known outer p) : known p.span := by
  obtain ⟨_, h⟩ := h
  cases h with
  | mk here made inside under => exact here

/-- What a part became nests in it. -/
theorem value_here (h : PartNestsIn known outer p) :
    Yields p.value (Node.NestsIn known p.span) := by
  obtain ⟨_, h⟩ := h
  cases h with
  | mk here made inside under => exact made

theorem value (h : PartNestsIn known outer p) : Yields p.value (Node.NestsIn known outer) :=
  h.value_here.weaken fun _ hn => hn.trans h.within

/-- The parts of a part nest in it. -/
theorem part_here (h : PartNestsIn known outer p) (hq : q ∈ p.parts) :
    PartNestsIn known p.span q := by
  obtain ⟨_, h⟩ := h
  cases h with
  | mk here made inside under => exact ⟨inside q hq, under q hq⟩

theorem part (h : PartNestsIn known outer p) (hq : q ∈ p.parts) : PartNestsIn known outer q := by
  obtain ⟨within, nests⟩ := h.part_here hq
  exact ⟨Concrete.within_trans within h.within, nests⟩

theorem constituent (h : PartNestsIn known outer p) (hq : q ∈ p.constituents) :
    PartNestsIn known outer q :=
  h.part (List.mem_of_mem_filter hq)

theorem child? {field : String} (h : PartNestsIn known outer p) (hq : p.child? field = some q) :
    PartNestsIn known outer q :=
  h.part (List.mem_of_find?_eq_some hq)

end PartNestsIn

namespace Form
variable {f : Form} {p : Converted}

/-- A form over a known span, all of whose parts nest in it. -/
structure Nests (known : Span → Prop) (f : Form) : Prop where
  here : known f.span
  parts : ∀ p ∈ f.parts, PartNestsIn known f.span p

namespace Nests

theorem inside (h : PartNestsIn known outer p) : (f.inside p).Nests known :=
  ⟨h.known_span, fun _ hq => h.part_here hq⟩

theorem constituent (h : f.Nests known) (hp : p ∈ f.constituents) :
    PartNestsIn known f.span p :=
  h.parts p (List.mem_of_mem_filter hp)

theorem child? (h : f.Nests known) (hp : f.child? name = some p) : PartNestsIn known f.span p :=
  h.parts p (List.mem_of_find?_eq_some hp)

end Nests

/-! ### What the readers of a form give -/

theorem yields_converted {o : Option Converted} (h : ∀ p ∈ o, PartNestsIn known outer p) :
    Yields (converted o) fun n? => ∀ n ∈ n?, n.NestsIn known outer := by
  cases o with
  | none => exact .pure (by simp)
  | some p =>
    show Yields (p.value >>= fun n => pure (some n)) _
    exact .bind (h p rfl).value fun n hn => .pure (by simpa using hn)

theorem yields_values {ps : List Converted} (h : ∀ p ∈ ps, PartNestsIn known outer p) :
    Yields (ps.mapM Part.value) fun ns => ∀ n ∈ ns, n.NestsIn known outer :=
  .mapM fun p hp => (h p hp).value

theorem Nests.field (h : f.Nests known) (name : String) :
    Yields (f.field name) fun n? => ∀ n ∈ n?, n.NestsIn known f.span :=
  yields_converted fun _ hp => h.child? hp

theorem Nests.firstConstituent (h : f.Nests known) :
    Yields f.firstConstituent fun n? => ∀ n ∈ n?, n.NestsIn known f.span :=
  yields_converted fun _ hp => h.constituent (List.mem_of_mem_head? hp)

theorem Nests.allConstituents (h : f.Nests known) :
    Yields f.allConstituents fun ns => ∀ n ∈ ns, n.NestsIn known f.span :=
  yields_values fun _ hp => h.constituent hp

theorem yields_keyOf {o : Option Converted} (h : ∀ p ∈ o, PartNestsIn known outer p) :
    Yields (keyOf o) fun key => ∀ n ∈ key.1, n.NestsIn known outer := by
  cases o with
  | none => exact .pure (by simp)
  | some p =>
    have hp := h p rfl
    refine .ite (fun _ => ?_) fun _ => ?_
    · refine .bind (yields_converted fun q hq => ?_) fun n? hn => .pure hn
      exact hp.constituent (List.mem_of_mem_head? hq)
    · exact .bind hp.value fun n hn => .pure (by simpa using hn)

/-! ### Nodes over a span -/

variable {span : Span} {kind : String} {fields : List (String × Slot Node)}

/-- A node over a known span nests if its fields do. -/
theorem nests_nodeAt (here : known span)
    (h : fields.Forall (FieldNests known role ⟨kind, span, some (f.source.location span)⟩)) :
    (f.nodeAt span kind fields).Nests known role :=
  Node.nests_iff.2 ⟨here, List.forall_iff_forall_mem.1 h⟩

theorem nestsIn_nodeAt (here : known span)
    (h : fields.Forall (FieldNests known .plain ⟨kind, span, some (f.source.location span)⟩)) :
    (f.nodeAt span kind fields).NestsIn known span :=
  ⟨⟨le_rfl, le_rfl⟩, nests_nodeAt here h⟩

theorem Nests.node (h : f.Nests known)
    (nested : fields.Forall
      (FieldNests known .plain ⟨kind, f.span, some (f.source.location f.span)⟩)) :
    (f.node kind fields).NestsIn known f.span :=
  nestsIn_nodeAt h.here nested

theorem yields_typeOf (h : PartNestsIn known outer p) :
    Yields (f.typeOf p) (Node.NestsIn known outer) := by
  refine .bind h.value_here fun n hn => .ite (fun _ => ?_) fun _ => .pure (hn.trans h.within)
  have reference : (f.nodeAt p.span "TSTypeReference" [("typeName", .node n)]).NestsIn known
      p.span :=
    nestsIn_nodeAt h.known_span (FieldNests.one hn)
  exact .pure (reference.trans h.within)

theorem yields_typeOf? {o : Option Converted} (h : ∀ p ∈ o, PartNestsIn known outer p) :
    Yields (f.typeOf? o) fun n? => ∀ n ∈ n?, n.NestsIn known outer := by
  cases o with
  | none => exact .pure (by simp)
  | some p =>
    show Yields (f.typeOf p >>= fun n => pure (some n)) _
    exact .bind (yields_typeOf (h p rfl)) fun n hn => .pure (by simpa using hn)

end Form

/-- A rule that makes nodes that nest in the concrete node out of parts that do. -/
def RuleNests (known : Span → Prop) (rule : Rule) : Prop :=
  ∀ f : Form, f.Nests known → Yields (rule f) (Node.NestsIn known f.span)

/-! ### Rules of one shape -/

section Shapes
variable {kind name other : String}

theorem ruleNests_first :
    RuleNests known fun f => do return f.node kind [(name, .ofOption (← f.firstConstituent))] := by
  intro f h
  exact .bind h.firstConstituent fun n hn => .pure (h.node (.child hn))

theorem ruleNests_all :
    RuleNests known fun f => do return f.node kind [(name, .nodes (← f.allConstituents))] := by
  intro f h
  exact .bind h.allConstituents fun ns hn => .pure (h.node (.list hn))

theorem ruleNests_two {first second : String} :
    RuleNests known fun f => do
      let n ← f.field first
      let m ← f.field second
      return f.node kind [(name, .ofOption n), (other, .ofOption m)] := by
  intro f h
  refine .bind (h.field first) fun n hn => .bind (h.field second) fun m hm => .pure ?_
  exact h.node ⟨.child hn, .child hm⟩

end Shapes

end Conversion

end PropOrder
