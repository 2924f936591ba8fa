import PropOrder.Proofs.Nesting

/-!
# Converted programs nest

Every rule of the conversion makes nodes that nest, one statement for each rule in the order of the
rules, and so by induction over the concrete tree what a tree with nested spans becomes nests
(`nests_convert`). Only the rule of typed parameters puts a node outside of what it is put on.

Seen from the sites of the program, each span is that of a concrete node and lies inside the span of
the parent, but for the annotations of parameters (`convert_nested`).
-/

namespace PropOrder

namespace Conversion
open Form
variable {known : Span → Prop} {f : Form}

theorem nests_generic : RuleNests known generic := by
  intro f h
  exact .bind h.allConstituents fun ns hn => .pure (h.node (.list hn))

/-! ### Names and literals -/

theorem nests_identifier : RuleNests known identifier := by
  intro f h
  exact .pure (h.node (.leaf rfl))

theorem nests_literal (h : f.Nests known) {value : Slot Node} (leaf : value.nodeList = [])
    (raw : Text) : (literal f value raw).NestsIn known f.span :=
  h.node ⟨.leaf leaf, .leaf rfl⟩

theorem nests_stringLiteral : RuleNests known stringLiteral := by
  intro f h
  exact .bind (yields_trivial _) fun t _ => .pure (nests_literal h rfl _)

theorem nests_numberLiteral : RuleNests known numberLiteral := by
  intro f h
  exact .pure (nests_literal h rfl _)

theorem nests_constant {value : Slot Node} (leaf : value.nodeList = []) :
    RuleNests known (constant value) := by
  intro f h
  exact .pure (nests_literal h leaf _)

theorem nests_thisExpression : RuleNests known thisExpression := by
  intro f h
  exact .pure (h.node trivial)

theorem nests_template : RuleNests known template := by
  intro f h
  exact .bind h.allConstituents fun ns hn => .pure (h.node ⟨.leaf rfl, .list hn⟩)

/-! ### Statements -/

theorem nests_program : RuleNests known program := by
  intro f h
  exact .bind h.allConstituents fun ns hn => .pure (h.node ⟨.list hn, .leaf rfl⟩)

theorem nests_expressionStatement : RuleNests known expressionStatement := ruleNests_first

theorem nests_block : RuleNests known block := ruleNests_all

theorem nests_returnStatement : RuleNests known returnStatement := ruleNests_first

theorem nests_elseBranch? (h : f.Nests known) :
    ∀ p ∈ elseBranch? f, PartNestsIn known f.span p := by
  intro p hp
  obtain ⟨clause, hc, rfl | hp⟩ := mem_elseBranch? hp
  · exact h.child? hc
  · exact (h.child? hc).constituent hp

theorem nests_ifStatement : RuleNests known ifStatement := by
  intro f h
  refine .bind (yields_converted (nests_elseBranch? h)) fun alternate ha => ?_
  refine .bind (h.field _) fun test ht => .bind (h.field _) fun consequent hc => .pure ?_
  exact h.node ⟨.child ht, .child hc, .child ha⟩

theorem nests_whileStatement : RuleNests known whileStatement := ruleNests_two

theorem nests_doWhileStatement : RuleNests known doWhileStatement := ruleNests_two

theorem nests_forStatement : RuleNests known forStatement := by
  intro f h
  refine .bind (h.field _) fun init hi => .bind (h.field _) fun test ht => ?_
  refine .bind (h.field _) fun update hu => .bind (h.field _) fun body hb => .pure ?_
  exact h.node ⟨.child hi, .child ht, .child hu, .child hb⟩

/-- The declaration that a word makes of the target of a loop lies over the target. -/
theorem yields_loopTarget (h : f.Nests known) :
    Yields (loopTarget f) fun n? => ∀ n ∈ n?, n.NestsIn known f.span := by
  unfold loopTarget
  cases hl : f.child? "left" with
  | none => exact .pure (by simp)
  | some p =>
    have target := h.child? hl
    refine .bind target.value_here fun left hleft => ?_
    cases loopKeyword? f with
    | none => exact .pure (by simpa using hleft.trans target.within)
    | some word =>
      have declarator : (f.nodeAt p.span "VariableDeclarator"
          [("id", .node left), ("init", .null)]).NestsIn known p.span :=
        nestsIn_nodeAt target.known_span ⟨.one hleft, .leaf rfl⟩
      have declaration : (f.nodeAt p.span "VariableDeclaration"
          [("kind", .string word), ("declarations", .nodes [f.nodeAt p.span "VariableDeclarator"
            [("id", .node left), ("init", .null)]])]).NestsIn known p.span :=
        nestsIn_nodeAt target.known_span ⟨.leaf rfl, .list (by simpa using declarator)⟩
      refine .pure ?_
      rintro _ ⟨⟩
      exact declaration.trans target.within

theorem nests_forInStatement : RuleNests known forInStatement := by
  intro f h
  refine .bind (yields_loopTarget h) fun left hl => .bind (h.field _) fun right hr => ?_
  exact .bind (h.field _) fun body hb => .pure (h.node ⟨.child hl, .child hr, .child hb⟩)

theorem nests_switchCase : RuleNests known switchCase := by
  intro f h
  refine .bind (h.field _) fun test ht => ?_
  refine .bind (yields_values fun p hp => h.parts p (List.mem_of_mem_filter hp)) fun ns hn => ?_
  exact .pure (h.node ⟨.child ht, .list hn⟩)

theorem nests_switchCases (h : f.Nests known) :
    ∀ p ∈ switchCases f, PartNestsIn known f.span p := by
  intro p hp
  obtain ⟨body, hb, hp⟩ := mem_switchCases hp
  exact (h.child? hb).constituent hp

/-- What a rule makes inside a part nests in whatever the part nests in. -/
theorem RuleNests.inside {rule : Rule} {outer : Span} {p : Converted} (h : RuleNests known rule)
    (hp : PartNestsIn known outer p) : Yields (rule (f.inside p)) (Node.NestsIn known outer) :=
  (h (f.inside p) (.inside hp)).weaken fun _ hn => hn.trans hp.within

theorem nests_switchStatement : RuleNests known switchStatement := by
  intro f h
  have cases : Yields ((switchCases f).mapM fun p => switchCase (f.inside p))
      fun ns => ∀ n ∈ ns, n.NestsIn known f.span :=
    .mapM fun p hp => nests_switchCase.inside (nests_switchCases h p hp)
  refine .bind cases fun ns hc => .bind (h.field _) fun discriminant hd => .pure ?_
  exact h.node ⟨.child hd, .list hc⟩

theorem nests_catchClause : RuleNests known catchClause := ruleNests_two

theorem nests_variableDeclarator : RuleNests known variableDeclarator := ruleNests_two

theorem nests_variableDeclaration : RuleNests known variableDeclaration := by
  intro f h
  have declarators : Yields ((f.constituents.filter (·.kind == "variable_declarator")).mapM
      fun p => variableDeclarator (f.inside p)) fun ns => ∀ n ∈ ns, n.NestsIn known f.span :=
    .mapM fun p hp =>
      nests_variableDeclarator.inside (h.constituent (List.mem_of_mem_filter hp))
  exact .bind declarators fun ns hn => .pure (h.node ⟨.leaf rfl, .list hn⟩)

theorem nests_exportStatement : RuleNests known exportStatement := by
  intro f h
  refine .bind (h.field _) fun declaration hd => .ite (fun _ => ?_) fun _ => ?_
  · have default : ∀ n? : Option Node, (∀ n ∈ n?, n.NestsIn known f.span) →
        Yields (pure (f.node "ExportDefaultDeclaration" [("declaration", .ofOption n?)]))
          (Node.NestsIn known f.span) :=
      fun n? hn => .pure (h.node (FieldNests.child hn))
    cases declaration with
    | some n => exact default (some n) hd
    | none => exact .bind (h.field _) default
  · cases declaration with
    | some n => exact .pure (h.node (FieldNests.one (hd n rfl)))
    | none => exact .bind h.allConstituents fun ns hn => .pure (h.node ⟨.leaf rfl, .list hn⟩)

/-! ### Functions -/

/-- A parameter of a function stands in the function, and its annotation may stand anywhere in
it. -/
def IsParameter (known : Span → Prop) (function : Span) (n : Node) : Prop :=
  n.span.Within function ∧ n.Nests known (.parameter function)

theorem isParameter_of_nestsIn {function : Span} {n : Node} (h : n.NestsIn known function) :
    IsParameter known function n :=
  ⟨h.within, h.nests.of_plain _⟩

/-- The pattern of a typed parameter with its annotation and its mark of being optional. -/
def markedPattern (pattern : Node) (type : Option Node) (optional : Bool) : Node :=
  let annotated := match type with
    | some type => pattern.set "typeAnnotation" (.node type)
    | none => pattern
  if optional then annotated.set "optional" (.bool true) else annotated

theorem span_markedPattern (pattern : Node) (type : Option Node) (optional : Bool) :
    (markedPattern pattern type optional).span = pattern.span := by
  cases type <;> cases optional <;> rfl

/-- The annotation is the only node that comes onto a pattern. -/
theorem nests_markedPattern {pattern : Node} {type : Option Node} {function : Span}
    {role : Role} (optional : Bool) (hp : pattern.Nests known .plain)
    (ht : ∀ n ∈ type, n.NestsIn known function) (ofFunction : function ∈ role.function?) :
    (markedPattern pattern type optional).Nests known role := by
  have annotated : (markedPattern pattern type false).Nests known role := by
    cases type with
    | none => exact hp.of_plain role
    | some type => exact (hp.of_plain role).set (.typed ofFunction (ht type rfl))
  cases optional with
  | false => exact annotated
  | true => exact annotated.set (.leaf rfl)

/-- A typed parameter stays inside its form, whose pattern its annotation is put on. -/
theorem yields_typedParameter {function : Span} (h : f.Nests known)
    (within : f.span.Within function) :
    Yields (typedParameter f) fun n? => ∀ n ∈ n?, IsParameter known function n := by
  refine .bind (h.field _) fun pattern hp => ?_
  cases pattern with
  | none => exact .pure (by simp)
  | some pattern =>
    refine .bind (h.field _) fun annotation ha => .bind (h.field _) fun default hd => ?_
    have bare := hp pattern rfl
    have outer : ∀ n ∈ annotation, n.NestsIn known function := fun n hn => (ha n hn).trans within
    have marked : ∀ {role : Role}, function ∈ role.function? →
        (markedPattern pattern annotation (f.kind == "optional_parameter")).Nests known role :=
      nests_markedPattern _ bare.nests outer
    have inside : (markedPattern pattern annotation
        (f.kind == "optional_parameter")).span.Within f.span := by
      rw [span_markedPattern]
      exact bare.within
    cases default with
    | none =>
      refine .pure ?_
      rintro _ ⟨⟩
      exact ⟨Concrete.within_trans inside within, marked rfl⟩
    | some default =>
      refine .pure ?_
      rintro _ ⟨⟩
      have left : FieldNests known (.parameter function)
          ⟨"AssignmentPattern", f.span, some (f.source.location f.span)⟩
          ("left", .node (markedPattern pattern annotation (f.kind == "optional_parameter"))) := by
        intro n hn
        obtain rfl := List.mem_singleton.1 hn
        exact ⟨.inl inside, marked rfl⟩
      exact ⟨within, nests_nodeAt h.here ⟨left, .one (hd default rfl)⟩⟩

theorem yields_parameter {p : Converted} (hp : PartNestsIn known f.span p) :
    Yields (parameter f p) fun n? => ∀ n ∈ n?, IsParameter known f.span n := by
  refine .ite (fun _ => ?_) fun _ => ?_
  · exact yields_typedParameter (.inside hp) hp.within
  · exact .bind hp.value fun n hn => .pure (by simpa using isParameter_of_nestsIn hn)

theorem yields_parameters {o : Option Converted} (ho : ∀ p ∈ o, PartNestsIn known f.span p) :
    Yields (parameters f o) fun ns => ∀ n ∈ ns, IsParameter known f.span n := by
  cases o with
  | none => exact .pure (by simp)
  | some p =>
    have hp := ho p rfl
    refine .ite (fun _ => ?_) fun _ => ?_
    · refine .bind (.mapM fun q hq => yields_parameter (hp.constituent hq)) fun ns hn => .pure ?_
      intro n hm
      obtain ⟨n?, hn?, hm⟩ := List.mem_filterMap.1 hm
      exact hn n? hn? n hm
    · exact .bind hp.value fun n hn => .pure (by simpa using isParameter_of_nestsIn hn)

theorem nests_methodFunction : RuleNests known methodFunction := by
  intro f h
  refine .bind (yields_parameters fun p hp => h.child? hp) fun params hp => ?_
  refine .bind (h.field _) fun body hb => .pure (h.node ?_)
  exact ⟨.leaf rfl, .parameters rfl hp, .child hb, .leaf rfl, .leaf rfl⟩

theorem nests_function : RuleNests known function := by
  intro f h
  refine .bind (h.field _) fun id hi => ?_
  refine .bind (yields_parameters fun p hp => h.child? hp) fun params hp => ?_
  refine .bind (h.field _) fun body hb => .pure (h.node ?_)
  have functionLike : ∀ declares : Bool, Head.isFunctionLike
      ⟨if declares then "FunctionDeclaration" else "FunctionExpression", f.span,
        some (f.source.location f.span)⟩ = true := by
    intro declares
    cases declares <;> rfl
  exact ⟨.child hi, .parameters (functionLike _) hp, .child hb, .leaf rfl, .leaf rfl⟩

/-- A part that is looked for under two names stands in the form under either. -/
theorem nests_child?_or (h : f.Nests known) (first second : String) :
    ∀ p ∈ (f.child? first).or (f.child? second), PartNestsIn known f.span p := by
  intro p hp
  rcases Option.or_eq_some_iff.1 hp with hp | ⟨-, hp⟩
  · exact h.child? hp
  · exact h.child? hp

theorem nests_arrowFunction : RuleNests known arrowFunction := by
  intro f h
  refine .bind (yields_parameters (nests_child?_or h _ _)) fun params hp => ?_
  refine .bind (h.field _) fun body hb => .pure (h.node ?_)
  exact ⟨.leaf rfl, .parameters rfl hp, .child hb, .leaf rfl, .leaf rfl⟩

/-! ### Classes -/

theorem nests_methodDefinition : RuleNests known methodDefinition := by
  intro f h
  refine .bind (yields_keyOf fun p hp => h.child? hp) fun key hk => ?_
  refine .bind (nests_methodFunction f h) fun value hv => .pure (h.node ?_)
  exact ⟨.child hk, .one hv, .leaf rfl, .leaf rfl, .leaf rfl⟩

theorem nests_classProperty : RuleNests known classProperty := by
  intro f h
  refine .bind (yields_keyOf (nests_child?_or h _ _)) fun key hk => ?_
  refine .bind (h.field _) fun value hv => .bind (h.field _) fun annotation ha => .pure ?_
  exact h.node ⟨.child hk, .child hv, .child ha, .leaf rfl, .leaf rfl⟩

theorem yields_classMember {outer : Span} {p : Converted} (hp : PartNestsIn known outer p) :
    Yields (classMember f p) (Node.NestsIn known outer) := by
  refine .ite (fun _ => ?_) fun _ => .ite (fun _ => ?_) fun _ => hp.value
  · exact nests_methodDefinition.inside hp
  · exact nests_classProperty.inside hp

/-- A base class and its type arguments, both nested in a span if they are there. -/
structure BaseNestsIn (known : Span → Prop) (outer : Span) (base : Base) : Prop where
  superClass : ∀ n ∈ base.superClass, n.NestsIn known outer
  typeArguments : ∀ n ∈ base.typeArguments, n.NestsIn known outer

theorem yields_extendsBase {outer : Span} {clause : Converted}
    (h : PartNestsIn known outer clause) :
    Yields (extendsBase clause) (BaseNestsIn known outer) := by
  unfold extendsBase
  have arguments := yields_converted (o := clause.child? "type_arguments") fun p hp => h.child? hp
  cases hv : clause.child? "value" with
  | none => exact .bind arguments fun args ha => .pure ⟨by simp, ha⟩
  | some value =>
    have hvalue := h.child? hv
    refine .ite (fun _ => ?_) fun _ => ?_
    -- a base with type arguments of its own: both are parts of the value
    · cases hc : value.constituents with
      | nil => exact .throw trivial
      | cons first rest =>
        refine .bind (hvalue.constituent (hc ▸ List.mem_cons_self ..)).value fun n hn => ?_
        refine .bind (yields_converted fun p hp => ?_) fun args ha => .pure ⟨by simpa using hn, ha⟩
        exact hvalue.part (List.mem_of_find?_eq_some hp)
    · refine .bind hvalue.value fun n hn => ?_
      exact .bind arguments fun args ha => .pure ⟨by simpa using hn, ha⟩

theorem yields_classBase (h : f.Nests known) :
    Yields (classBase f) (BaseNestsIn known f.span) := by
  have absent : Yields (pure ⟨none, none⟩) (BaseNestsIn known f.span) :=
    .pure ⟨by simp, by simp⟩
  unfold classBase
  cases hh : f.constituents.find? (·.kind == "class_heritage") with
  | none => exact absent
  | some heritage =>
    have hheritage := h.constituent (List.mem_of_find?_eq_some hh)
    cases he : heritage.constituents.find? (·.kind == "extends_clause") with
    | some clause =>
      simp only [he]
      exact yields_extendsBase (hheritage.constituent (List.mem_of_find?_eq_some he))
    | none =>
      simp only [he]
      cases hf : heritage.parts.find? (·.head.named) with
      | none => exact absent
      | some first =>
        refine .ite (fun _ => absent) fun _ => ?_
        have hfirst := hheritage.part (List.mem_of_find?_eq_some hf)
        exact .bind hfirst.value fun n hn => .pure ⟨by simpa using hn, by simp⟩

/-- The body of a class lies over its braces, or over the class if it has none. -/
theorem yields_classBody (h : f.Nests known) :
    Yields (classBody f) (Node.NestsIn known f.span) := by
  unfold classBody
  cases hb : f.child? "body" with
  | none => exact .pure (h.node (FieldNests.list (by simp)))
  | some body =>
    have hbody := h.child? hb
    have members : Yields (body.constituents.mapM (classMember f))
        fun ns => ∀ n ∈ ns, n.NestsIn known body.span :=
      .mapM fun p hp => yields_classMember (hbody.part_here (List.mem_of_mem_filter hp))
    refine .bind members fun ns hn => .pure ?_
    have braces : (f.nodeAt body.span "ClassBody" [("body", .nodes ns)]).NestsIn known body.span :=
      nestsIn_nodeAt hbody.known_span (FieldNests.list hn)
    exact braces.trans hbody.within

theorem nests_classDefinition : RuleNests known classDefinition := by
  intro f h
  refine .bind (yields_classBase h) fun base hs => .bind (yields_classBody h) fun body hb => ?_
  refine .bind (h.field _) fun id hi => .pure ?_
  exact h.node ⟨.child hi, .child hs.superClass, .child hs.typeArguments, .one hb⟩

/-! ### Objects and arrays -/

theorem nests_property (h : f.Nests known) {key value : Option Node}
    {computed shorthand method : Bool} (hk : ∀ n ∈ key, n.NestsIn known f.span)
    (hv : ∀ n ∈ value, n.NestsIn known f.span) :
    (property f key value computed shorthand method).NestsIn known f.span :=
  h.node ⟨.child hk, .child hv, .leaf rfl, .leaf rfl, .leaf rfl, .leaf rfl⟩

theorem nests_pairProperty : RuleNests known pairProperty := by
  intro f h
  refine .bind (yields_keyOf fun p hp => h.child? hp) fun key hk => ?_
  exact .bind (h.field _) fun value hv => .pure (nests_property h hk hv)

theorem nests_methodProperty : RuleNests known methodProperty := by
  intro f h
  refine .bind (yields_keyOf fun p hp => h.child? hp) fun key hk => ?_
  refine .bind (nests_methodFunction f h) fun value hv => .pure (nests_property h hk ?_)
  simpa using hv

theorem yields_objectMember {outer : Span} {p : Converted} (hp : PartNestsIn known outer p) :
    Yields (objectMember f p) (Node.NestsIn known outer) := by
  refine .ite (fun _ => ?_) fun _ => .ite (fun _ => ?_) fun _ => .ite (fun _ => ?_) fun _ =>
    hp.value
  · exact nests_pairProperty.inside hp
  · refine .bind hp.value_here fun name hn => .pure ?_
    have named : ∀ m ∈ some name, m.NestsIn known (f.inside p).span := by
      rintro _ ⟨⟩
      exact hn
    exact (nests_property (.inside hp) named named).trans hp.within
  · exact nests_methodProperty.inside hp

theorem nests_object : RuleNests known object := by
  intro f h
  refine .bind (.mapM fun p hp => yields_objectMember (h.constituent hp)) fun ns hn => .pure ?_
  exact h.node (FieldNests.list hn)

theorem nests_objectPattern : RuleNests known objectPattern := ruleNests_all

theorem nests_assignmentPattern : RuleNests known assignmentPattern := ruleNests_two

theorem nests_restElement : RuleNests known restElement := ruleNests_first

theorem nests_spreadElement : RuleNests known spreadElement := ruleNests_first

theorem nests_array : RuleNests known array := ruleNests_all

/-! ### Access and calls -/

/-- Access to a member, by whichever field the member is told. -/
theorem nests_access (field : String) (computed : Bool) : RuleNests known fun f => do
    let object ← f.field "object"
    let property ← f.field field
    return f.node "MemberExpression"
      [("object", .ofOption object), ("property", .ofOption property), ("computed", .bool computed),
        ("optional", .bool (f.hasToken "?."))] := by
  intro f h
  refine .bind (h.field _) fun object ho => .bind (h.field _) fun property hp => .pure ?_
  exact h.node ⟨.child ho, .child hp, .leaf rfl, .leaf rfl⟩

theorem nests_member : RuleNests known member := nests_access "property" false

theorem nests_subscript : RuleNests known subscript := nests_access "index" true

theorem yields_arguments {outer : Span} {o : Option Converted}
    (ho : ∀ p ∈ o, PartNestsIn known outer p) :
    Yields (arguments o) fun ns => ∀ n ∈ ns, n.NestsIn known outer := by
  cases o with
  | none => exact .pure (by simp)
  | some p => exact yields_values fun q hq => (ho p rfl).constituent hq

theorem yields_ordinary_call {callee : Option Node} (h : f.Nests known)
    (hc : ∀ n ∈ callee, n.NestsIn known f.span) :
    Yields (call.ordinary f callee) (Node.NestsIn known f.span) := by
  refine .bind (yields_arguments fun p hp => h.child? hp) fun arguments ha => ?_
  refine .bind (h.field _) fun typeArguments ht => .pure ?_
  exact h.node ⟨.child hc, .list ha, .child ht⟩

theorem nests_call : RuleNests known call := by
  intro f h
  refine .bind (h.field _) fun callee hc => ?_
  cases ha : f.child? "arguments" with
  | none => exact yields_ordinary_call h hc
  | some p =>
    refine .ite (fun _ => ?_) fun _ => yields_ordinary_call h hc
    exact .bind (h.child? ha).value fun quasi hq => .pure (h.node ⟨.child hc, .one hq⟩)

theorem nests_newExpression : RuleNests known newExpression := by
  intro f h
  refine .bind (h.field _) fun callee hc => ?_
  refine .bind (yields_arguments fun p hp => h.child? hp) fun arguments ha => .pure ?_
  exact h.node ⟨.child hc, .list ha⟩

/-! ### Operations -/

theorem nests_assignment : RuleNests known assignment := by
  intro f h
  refine .bind (h.field _) fun left hl => .bind (h.field _) fun right hr => .pure ?_
  exact h.node ⟨.leaf rfl, .child hl, .child hr⟩

theorem nests_conditional : RuleNests known conditional := by
  intro f h
  refine .bind (h.field _) fun test ht => .bind (h.field _) fun consequent hc => ?_
  exact .bind (h.field _) fun alternate ha => .pure (h.node ⟨.child ht, .child hc, .child ha⟩)

theorem nests_binary : RuleNests known binary := by
  intro f h
  refine .bind (h.field _) fun left hl => .bind (h.field _) fun right hr => .pure ?_
  exact h.node ⟨.leaf rfl, .child hl, .child hr⟩

theorem nests_unary : RuleNests known unary := by
  intro f h
  exact .bind (h.field _) fun argument ha => .pure (h.node ⟨.leaf rfl, .child ha⟩)

theorem nests_parenthesized : RuleNests known parenthesized := by
  intro f h
  unfold parenthesized
  split
  · next p hp => exact (h.constituent (hp ▸ List.mem_singleton_self p)).value
  · exact .bind h.allConstituents fun ns hn => .pure (h.node (FieldNests.list hn))

theorem nests_yieldExpression : RuleNests known yieldExpression := by
  intro f h
  exact .bind h.firstConstituent fun argument ha => .pure (h.node ⟨.child ha, .leaf rfl⟩)

theorem nests_awaitExpression : RuleNests known awaitExpression := ruleNests_first

theorem nests_markup : RuleNests known markup := by
  intro f h
  exact .bind h.allConstituents fun ns hn => .pure (h.node (FieldNests.list hn))

/-! ### Types -/

theorem nests_typeClaim (kind : String) : RuleNests known (typeClaim kind) := by
  intro f h
  refine .bind h.firstConstituent fun n hn => ?_
  refine .bind (yields_typeOf? fun p hp => h.constituent (List.mem_of_getElem? hp))
    fun annotation ha => .pure (h.node ⟨.child hn, .child ha⟩)

theorem nests_nonNull : RuleNests known nonNull := ruleNests_first

theorem nests_interface : RuleNests known interface := by
  intro f h
  have declaration : ∀ body : Node, body.NestsIn known f.span → Yields (do
      let id ← f.field "name"
      return f.node "TSInterfaceDeclaration" [("id", .ofOption id), ("body", .node body)])
      (Node.NestsIn known f.span) := fun body hb =>
    .bind (h.field _) fun id hi => .pure (h.node ⟨.child hi, .one hb⟩)
  unfold interface
  cases hb : f.child? "body" with
  | none => exact declaration _ (h.node (FieldNests.list (by simp)))
  | some body =>
    have hbody := h.child? hb
    refine .bind (yields_values fun p hp => hbody.part_here (List.mem_of_mem_filter hp))
      fun ns hn => declaration _ ?_
    have braces : (f.nodeAt body.span "TSInterfaceBody" [("body", .nodes ns)]).NestsIn known
        body.span :=
      nestsIn_nodeAt hbody.known_span (FieldNests.list hn)
    exact braces.trans hbody.within

theorem nests_typeAlias : RuleNests known typeAlias := by
  intro f h
  refine .bind (h.field _) fun id hi => ?_
  refine .bind (yields_typeOf? fun p hp => h.child? hp) fun annotation ha => .pure ?_
  exact h.node ⟨.child hi, .child ha⟩

theorem nests_typeLiteral : RuleNests known typeLiteral := ruleNests_all

theorem nests_signature (kind typeField : String) : RuleNests known (signature kind typeField) := by
  intro f h
  refine .bind (yields_keyOf fun p hp => h.child? hp) fun name hk => ?_
  refine .bind (h.field _) fun annotation ha => .pure (h.node ?_)
  exact ⟨.child hk, .leaf rfl, .leaf rfl, .child ha⟩

theorem nests_typeAnnotation : RuleNests known typeAnnotation := by
  intro f h
  refine .bind (yields_typeOf? fun p hp => h.constituent (List.mem_of_mem_head? hp))
    fun annotation ha => .pure (h.node (FieldNests.child ha))

theorem nests_genericType : RuleNests known genericType := ruleNests_two

theorem nests_qualifiedName : RuleNests known qualifiedName := ruleNests_two

theorem nests_typeArguments : RuleNests known typeArguments := by
  intro f h
  refine .bind (.mapM fun p hp => yields_typeOf (h.constituent hp)) fun ns hn => .pure ?_
  exact h.node (FieldNests.list hn)

/-! ### Trees -/

theorem nests_nameRules : ∀ entry ∈ nameRules, RuleNests known entry.2 := by
  simp [nameRules, nests_identifier]

theorem nests_statementRules : ∀ entry ∈ statementRules, RuleNests known entry.2 := by
  simp [statementRules, nests_program, nests_expressionStatement, nests_block,
    nests_returnStatement, nests_ifStatement, nests_whileStatement, nests_doWhileStatement,
    nests_forStatement, nests_forInStatement, nests_switchStatement, nests_catchClause,
    nests_variableDeclaration, nests_exportStatement]

theorem nests_functionRules : ∀ entry ∈ functionRules, RuleNests known entry.2 := by
  simp [functionRules, nests_classDefinition, nests_function, nests_arrowFunction]

theorem nests_expressionRules : ∀ entry ∈ expressionRules, RuleNests known entry.2 := by
  have flag : ∀ b : Bool, RuleNests known (constant (.bool b)) := fun _ => nests_constant rfl
  have null : RuleNests known (constant .null) := nests_constant rfl
  simp [expressionRules, flag, null, nests_stringLiteral, nests_numberLiteral,
    nests_thisExpression, nests_template, nests_object, nests_objectPattern,
    nests_assignmentPattern, nests_restElement, nests_spreadElement, nests_array, nests_member,
    nests_subscript, nests_call, nests_newExpression, nests_assignment, nests_conditional,
    nests_binary, nests_unary, nests_parenthesized, nests_yieldExpression, nests_awaitExpression,
    nests_markup]

theorem nests_typeRules : ∀ entry ∈ typeRules, RuleNests known entry.2 := by
  simp [typeRules, nests_typeClaim, nests_nonNull, nests_interface, nests_typeAlias,
    nests_typeLiteral, nests_signature, nests_typeAnnotation, nests_genericType,
    nests_qualifiedName, nests_typeArguments]

/-- The rule of every kind of concrete node nests. -/
theorem nests_ruleFor (kind : String) : RuleNests known (ruleFor kind) := by
  unfold ruleFor
  cases hr : rules.lookup kind with
  | none => exact nests_generic
  | some rule =>
    obtain ⟨front, back, heq, -⟩ := List.lookup_eq_some_iff.1 hr
    have mem : (kind, rule) ∈ rules := by simp [heq]
    -- the rules are kept in five tables, one after the other
    simp only [rules, List.mem_append] at mem
    rcases mem with (((hm | hm) | hm) | hm) | hm
    · exact nests_nameRules _ hm
    · exact nests_statementRules _ hm
    · exact nests_functionRules _ hm
    · exact nests_expressionRules _ hm
    · exact nests_typeRules _ hm

/-- All parts of a tree with nested spans nest, if the spans of all its nodes are known. -/
theorem partNests_convertAll (source : SourceText) : (tree : Concrete) → tree.Nested →
    (∀ t ∈ tree.nodes, known t.span) → PartNests known (convertAll source tree)
  | .mk head children, nested, spans => by
    -- by induction over the tree: a rule sees parts that are settled
    have inside : ∀ p ∈ children.map (convertAll source), p.span.Within head.span := by
      intro p hp
      obtain ⟨t, ht, rfl⟩ := List.mem_map.1 hp
      rw [Part.span, convertAll, Concrete.head_annotate]
      exact nested.within ht
    have under : ∀ p ∈ children.map (convertAll source), PartNests known p := by
      intro p hp
      obtain ⟨t, ht, rfl⟩ := List.mem_map.1 hp
      exact partNests_convertAll source t (nested.child ht) fun d hd =>
        spans d (Concrete.mem_nodes_of_mem_children ht hd)
    have here : known head.span := spans _ (Concrete.mem_nodes_self _)
    rw [convertAll_mk]
    refine .mk here ?_ inside under
    exact nests_ruleFor head.kind ⟨source, head, _⟩ ⟨here, fun p hp => ⟨inside p hp, under p hp⟩⟩

/-- What a tree with nested spans becomes nests, over spans of its nodes. -/
theorem nests_convert {source : SourceText} {tree : Concrete} {n : Node} (nested : tree.Nested)
    (h : convert source tree = .ok n) : n.Nests tree.HasSpan .plain := by
  have whole : PartNests tree.HasSpan (convertAll source tree) :=
    partNests_convertAll source tree nested fun t ht => ⟨t, ht, rfl⟩
  have within : (convertAll source tree).span.Within (convertAll source tree).span :=
    ⟨le_rfl, le_rfl⟩
  exact ((PartNestsIn.mk within whole).value_here.of_eq_ok h).nests

end Conversion

/-! ### Sites -/

namespace Site
variable {r s p c g : Site} {name : String} {role : Role} {known : Span → Prop}

/-- A site stands in a field of another. -/
def StandsIn (c p : Site) (name : String) : Prop := ∃ v, (name, v) ∈ p.fields ∧ c ∈ v.nodeList

theorem exists_standsIn (hc : c ∈ p.children) : ∃ name, c.StandsIn p name := by
  obtain ⟨⟨name, v⟩, hf, hc⟩ := List.mem_flatMap.1 hc
  exact ⟨name, v, hf, hc⟩

theorem StandsIn.exists_field (h : c.StandsIn p name) :
    ∃ slot, (name, slot) ∈ p.node.fields ∧ c.node ∈ slot.nodeList := by
  obtain ⟨v, hf, hc⟩ := h
  obtain ⟨i, hi, he⟩ := List.mem_mapIdx.1 hf
  obtain ⟨rfl, rfl⟩ := Prod.mk.inj he
  obtain ⟨item, n, hn, rfl⟩ := mem_nodeList_lift hc
  exact ⟨p.node.fields[i].2, List.getElem_mem hi, hn⟩

/-- A site is the pattern of a parameter of a function, with or without a default. -/
inductive PatternOf (g : Site) : Site → Prop
  /-- A parameter itself. -/
  | parameter {p : Site} (param : p.StandsIn g "params") : PatternOf g p
  /-- What a default is given to. -/
  | default {a p : Site} (param : a.StandsIn g "params") (kind : a.kind = "AssignmentPattern")
    (left : p.StandsIn a "left") : PatternOf g p

/-- A site has a role in a program. -/
inductive Plays (r : Site) : Site → Role → Prop
  | plain (s : Site) : Plays r s .plain
  | parameter {g s : Site} (hg : g ∈ r.walk) (function : g.isFunctionLike = true)
    (param : s.StandsIn g "params") : Plays r s (.parameter g.span)
  | pattern {g a s : Site} (hg : g ∈ r.walk) (function : g.isFunctionLike = true)
    (param : a.StandsIn g "params") (kind : a.kind = "AssignmentPattern")
    (left : s.StandsIn a "left") : Plays r s (.pattern g.span)

/-- The role of a site gives the sites in its fields their roles. -/
theorem Plays.below (h : Plays r p role) (hp : p ∈ r.walk) (hc : c.StandsIn p name) :
    Plays r c (role.below p.node.head name) := by
  unfold Role.below
  split
  · next params =>
    obtain ⟨function, named⟩ := Bool.and_eq_true_iff.1 params
    obtain rfl := eq_of_beq named
    exact .parameter hp function hc
  · cases h with
    | plain => exact .plain c
    | pattern => exact .plain c
    | parameter hg function param =>
      show Plays r c (if _ then _ else _)
      split
      · next left =>
        obtain ⟨kind, named⟩ := Bool.and_eq_true_iff.1 left
        obtain rfl := eq_of_beq named
        exact .pattern hg function param (eq_of_beq kind) hc
      · exact .plain c

theorem Plays.exists_function {function : Span} (h : Plays r p role)
    (hf : function ∈ role.function?) :
    ∃ g ∈ r.walk, g.isFunctionLike = true ∧ PatternOf g p ∧ g.span = function := by
  cases h with
  | plain => cases hf
  | @parameter g _ hg isFunction param =>
    exact ⟨g, hg, isFunction, .parameter param, Option.some.inj hf⟩
  | @pattern g _ _ hg isFunction param kind left =>
    exact ⟨g, hg, isFunction, .default param kind left, Option.some.inj hf⟩

/-- A field of a site whose node nests. -/
theorem fieldNests_of_standsIn (h : p.node.Nests known role) (hc : c.StandsIn p name) :
    (c.span.Within p.span ∨
      (name = "typeAnnotation" ∧ ∃ function ∈ role.function?, c.span.Within function)) ∧
      c.node.Nests known (role.below p.node.head name) := by
  obtain ⟨slot, hf, hn⟩ := hc.exists_field
  exact h.field hf c.node hn

/-- In a program that nests every site nests in a role that it has. -/
theorem exists_plays (h : r.node.Nests known .plain) :
    ∀ s ∈ r.walk, ∃ role, Plays r s role ∧ s.node.Nests known role := by
  refine walk_induction ⟨.plain, .plain r, h⟩ fun p hp ⟨role, plays, nests⟩ c hc => ?_
  obtain ⟨name, stands⟩ := exists_standsIn hc
  exact ⟨_, plays.below hp stands, (fieldNests_of_standsIn nests stands).2⟩

end Site

namespace Conversion
open Site

/-- **Where the spans of a concrete tree are nested, so are those of the program.** The span and the
location of every node of the program are those of a concrete node. The span lies inside that of
the parent, unless the node is the annotation that is put on the pattern of a parameter: then it
lies inside the function. -/
theorem convert_nested {source : SourceText} {tree : Concrete} {n : Node} (nested : tree.Nested)
    (h : convert source tree = .ok n) : ∀ c ∈ (root n).walk,
      (∃ t ∈ tree.nodes, c.span = t.span ∧ c.location = some (source.location t.span)) ∧
      ∀ p, c.parent? = some p → c.span.Within p.span ∨
        (c.StandsIn p "typeAnnotation" ∧ ∃ g ∈ (root n).walk, g.isFunctionLike = true ∧
          PatternOf g p ∧ c.span.Within g.span) := by
  have nests := nests_convert nested h
  intro c hc
  constructor
  · obtain ⟨role, -, here⟩ := exists_plays (r := root n) nests c hc
    obtain ⟨t, ht, span⟩ := here.known_span
    have located := (wellFormed_of_mem_walk (r := root n) (convert_wellFormed h) c hc).location_eq
    exact ⟨t, ht, span.symm, span ▸ located⟩
  · intro p hp
    obtain ⟨hpw, hcp⟩ := mem_children_of_parent? hc hp
    obtain ⟨role, plays, here⟩ := exists_plays (r := root n) nests p hpw
    obtain ⟨name, stands⟩ := exists_standsIn hcp
    refine (fieldNests_of_standsIn here stands).1.imp_right ?_
    rintro ⟨rfl, function, hf, within⟩
    obtain ⟨g, hg, isFunction, pattern, rfl⟩ := plays.exists_function hf
    exact ⟨stands, g, hg, isFunction, pattern, within⟩

/-- The concrete tree of the source `(a:T=1)=>a`. -/
def annotatedTree : Concrete :=
  .mk ⟨true, "program", "", ⟨0, 10⟩⟩ [
    .mk ⟨true, "expression_statement", "", ⟨0, 10⟩⟩ [
      .mk ⟨true, "arrow_function", "", ⟨0, 10⟩⟩ [
        .mk ⟨true, "formal_parameters", "parameters", ⟨0, 7⟩⟩ [
          .mk ⟨true, "required_parameter", "", ⟨1, 6⟩⟩ [
            .mk ⟨true, "identifier", "pattern", ⟨1, 2⟩⟩ [],
            .mk ⟨true, "type_annotation", "type", ⟨2, 4⟩⟩ [
              .mk ⟨true, "type_identifier", "", ⟨3, 4⟩⟩ []],
            .mk ⟨true, "number", "value", ⟨5, 6⟩⟩ []]],
        .mk ⟨true, "identifier", "body", ⟨9, 10⟩⟩ []]]]

/-- The annotation of a parameter with a default lies inside the function, but outside of the
pattern. -/
theorem annotatedTree_nested : ∃ n c p, annotatedTree.Nested ∧
    convert (.ofString "(a:T=1)=>a") annotatedTree = .ok n ∧ c ∈ (root n).walk ∧
    c.parent? = some p ∧ ¬ c.span.Within p.span ∧ c.StandsIn p "typeAnnotation" ∧
    ∃ g ∈ (root n).walk, g.isFunctionLike = true ∧ PatternOf g p ∧ c.span.Within g.span := by
  have nested : annotatedTree.Nested := by decide
  have outside : (do
      return (root (← convert (.ofString "(a:T=1)=>a") annotatedTree)).walk.any fun c =>
        c.parent?.any fun (p : Site) => !decide (c.span.Within p.span)).toOption = some true := by
    decide +kernel
  obtain ⟨n, converts⟩ : ∃ n, convert (.ofString "(a:T=1)=>a") annotatedTree = .ok n := ⟨_, rfl⟩
  rw [converts] at outside
  obtain ⟨c, hc, outside⟩ := List.any_eq_true.1 (Option.some.inj outside)
  obtain ⟨p, parent, outside⟩ := (Option.any_eq_true _ _).1 outside
  have apart : ¬ c.span.Within p.span := by simpa using outside
  have annotation := ((convert_nested nested converts c hc).2 p parent).resolve_left apart
  exact ⟨n, c, p, nested, converts, hc, parent, apart, annotation⟩

end Conversion

end PropOrder
