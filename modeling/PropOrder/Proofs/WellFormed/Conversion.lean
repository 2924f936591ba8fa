import PropOrder.Conversion
import PropOrder.Proofs.WellFormed.Form

/-!
# Converted programs are well formed

Every rule of the conversion is sound, one statement for each rule in the order of the rules, and so
by induction over the concrete tree whatever a tree becomes is well formed (`convert_wellFormed`).
There are two reasons why a tree may become nothing: a quoted literal with an escape that is too
large, and an instantiation of nothing (`convert_returnsUnless`).
-/

namespace PropOrder

namespace Conversion

open Form
variable {why : Fault → Prop}

theorem sound_generic : RuleSound why generic := by
  intro f h
  refine .bind h.allConstituents fun ns hn => .pure (wellFormed_node ?_)
  exact fits_list hn (contentOf_children f.kind)

/-! ### Names and literals -/

theorem sound_identifier : RuleSound why identifier := by
  intro f _
  exact .pure (wellFormed_node (fits_spelling rfl))

/-- An escape that is too large is a reason why a quoted literal has no value. -/
def EscapesSound (why : Fault → Prop) (raw : Text) : Prop :=
  ∀ v, .numeric v ∈ Text.scan (Text.withoutEnds raw) → 0x10FFFF < v → why (.codePointTooLarge v)

theorem returnsUnless_literalValue {raw : Text} (h : EscapesSound why raw) :
    ReturnsUnless why (Text.literalValue raw) fun _ => True := by
  have pieces : ReturnsUnless why ((Text.scan (Text.withoutEnds raw)).mapM Text.Piece.value)
      fun ts => ∀ t ∈ ts, True := by
    refine .mapM fun piece hp => ?_
    cases piece with
    | single c => exact .pure trivial
    | continuation => exact .pure trivial
    | numeric v =>
      rw [Text.Piece.value]
      refine .ite (fun _ => .pure trivial) fun large => .throw (h v hp ?_)
      omega
  have texts : ReturnsUnless why (Text.unescape (Text.withoutEnds raw)) fun _ => True :=
    .bind pieces fun _ _ => .pure trivial
  exact .bind texts fun _ _ => .pure trivial

theorem returnsUnless_stringLiteral {f : Form} (h : EscapesSound why f.text) :
    ReturnsUnless why (stringLiteral f) (Node.WellFormed f.source) :=
  .bind (returnsUnless_literalValue h) fun _ _ =>
    .pure (wellFormed_node ⟨fits_scalar rfl, fits_text rfl⟩)

theorem sound_numberLiteral : RuleSound why numberLiteral := by
  intro f _
  exact .pure (wellFormed_node ⟨fits_scalar rfl, fits_text rfl⟩)

theorem sound_constant_bool (b : Bool) : RuleSound why (constant (.bool b)) := by
  intro f _
  exact .pure (wellFormed_node ⟨fits_scalar rfl, fits_text rfl⟩)

theorem sound_constant_null : RuleSound why (constant .null) := by
  intro f _
  exact .pure (wellFormed_node ⟨fits_no_scalar rfl, fits_text rfl⟩)

theorem sound_thisExpression : RuleSound why thisExpression := by
  intro f _
  exact .pure (wellFormed_node trivial)

theorem sound_template : RuleSound why template := by
  intro f h
  refine .bind h.allConstituents fun ns hn => .pure ?_
  exact wellFormed_node ⟨fits_text rfl, fits_list hn rfl⟩

/-! ### Statements -/

theorem sound_program : RuleSound why program := by
  intro f h
  refine .bind h.allConstituents fun ns hn => .pure ?_
  exact wellFormed_node ⟨fits_list hn rfl, fits_text rfl⟩

theorem sound_expressionStatement : RuleSound why expressionStatement := ruleSound_first rfl

theorem sound_block : RuleSound why block := ruleSound_all rfl

theorem sound_returnStatement : RuleSound why returnStatement := ruleSound_first rfl

/-- The branch that an `else` leads to is what stands for it, or a constituent of that. -/
theorem mem_elseBranch? {f : Form} {p : Converted} (hp : p ∈ elseBranch? f) :
    ∃ clause, f.child? "alternative" = some clause ∧ (p = clause ∨ p ∈ clause.constituents) := by
  unfold elseBranch? at hp
  cases hc : f.child? "alternative" with
  | none => simp [hc] at hp
  | some clause =>
    simp only [hc] at hp
    refine ⟨clause, rfl, ?_⟩
    split at hp
    · exact .inr (List.mem_of_mem_head? hp)
    · exact .inl (Option.some.inj hp).symm

theorem sound_elseBranch? {f : Form} (h : f.Sound why) :
    ∀ p ∈ elseBranch? f, PartSound why f.source p := by
  intro p hp
  obtain ⟨clause, hc, rfl | hp⟩ := mem_elseBranch? hp
  · exact h.child? hc
  · exact (h.child? hc).constituent hp

theorem sound_ifStatement : RuleSound why ifStatement := by
  intro f h
  refine .bind (returnsUnless_converted (sound_elseBranch? h)) fun alternate ha => ?_
  refine .bind (h.field _) fun test ht => .bind (h.field _) fun consequent hc => .pure ?_
  exact wellFormed_node ⟨fits_child ht rfl, fits_child hc rfl, fits_child ha rfl⟩

theorem sound_whileStatement : RuleSound why whileStatement := ruleSound_two rfl rfl

theorem sound_doWhileStatement : RuleSound why doWhileStatement := ruleSound_two rfl rfl

theorem sound_forStatement : RuleSound why forStatement := by
  intro f h
  refine .bind (h.field _) fun init hi => .bind (h.field _) fun test ht => ?_
  refine .bind (h.field _) fun update hu => .bind (h.field _) fun body hb => .pure ?_
  exact wellFormed_node
    ⟨fits_child hi rfl, fits_child ht rfl, fits_child hu rfl, fits_child hb rfl⟩

theorem returnsUnless_loopTarget {f : Form} (h : f.Sound why) :
    ReturnsUnless why (loopTarget f) fun n? => ∀ n ∈ n?, n.WellFormed f.source := by
  unfold loopTarget
  cases hl : f.child? "left" with
  | none => exact .pure (by simp)
  | some p =>
    refine .bind (h.child? hl).value fun left hleft => ?_
    cases loopKeyword? f with
    | none => exact .pure (by simpa using hleft)
    | some word =>
      -- the word makes a declaration of one declarator without an initializer around the target
      refine .pure ?_
      rintro _ ⟨⟩
      refine wellFormed_nodeAt ⟨fits_text rfl, fits_allOfKind ?_ rfl⟩
      intro n hn
      obtain rfl := List.mem_singleton.1 hn
      exact ⟨wellFormed_nodeAt ⟨fits_one hleft rfl, fits_null rfl⟩, rfl⟩

theorem sound_forInStatement : RuleSound why forInStatement := by
  intro f h
  refine .bind (returnsUnless_loopTarget h) fun left hl => .bind (h.field _) fun right hr => ?_
  refine .bind (h.field _) fun body hb => .pure ?_
  split
  · exact wellFormed_node ⟨fits_child hl rfl, fits_child hr rfl, fits_child hb rfl⟩
  · exact wellFormed_node ⟨fits_child hl rfl, fits_child hr rfl, fits_child hb rfl⟩

theorem returnsUnless_switchCase {f : Form} (h : f.Sound why) :
    ReturnsUnless why (switchCase f) fun n => n.WellFormed f.source ∧ n.kind = "SwitchCase" := by
  refine .bind (h.field _) fun test ht => ?_
  refine .bind (returnsUnless_values fun p hp => h p (List.mem_of_mem_filter hp)) fun ns hn => ?_
  refine .pure ?_
  exact ⟨wellFormed_node ⟨fits_child ht rfl, fits_list hn rfl⟩, rfl⟩

/-- The cases of a switch are constituents of its body. -/
theorem mem_switchCases {f : Form} {p : Converted} (hp : p ∈ switchCases f) :
    ∃ body, f.child? "body" = some body ∧ p ∈ body.constituents := by
  unfold switchCases at hp
  cases hb : f.child? "body" with
  | none => simp [hb] at hp
  | some body =>
    simp only [hb] at hp
    exact ⟨body, rfl, List.mem_of_mem_filter hp⟩

theorem sound_switchCases {f : Form} (h : f.Sound why) :
    ∀ p ∈ switchCases f, PartSound why f.source p := by
  intro p hp
  obtain ⟨body, hb, hp⟩ := mem_switchCases hp
  exact (h.child? hb).constituent hp

theorem sound_switchStatement : RuleSound why switchStatement := by
  intro f h
  have cases : ReturnsUnless why ((switchCases f).mapM fun p => switchCase (f.inside p))
      fun ns => ∀ n ∈ ns, n.WellFormed f.source ∧ n.kind = "SwitchCase" :=
    .mapM fun p hp => returnsUnless_switchCase (.inside (sound_switchCases h p hp))
  refine .bind cases fun ns hc => .bind (h.field _) fun discriminant hd => .pure ?_
  exact wellFormed_node ⟨fits_child hd rfl, fits_allOfKind hc rfl⟩

theorem sound_catchClause : RuleSound why catchClause := ruleSound_two rfl rfl

theorem returnsUnless_variableDeclarator {f : Form} (h : f.Sound why) :
    ReturnsUnless why (variableDeclarator f)
      fun n => n.WellFormed f.source ∧ n.kind = "VariableDeclarator" := by
  refine .bind (h.field _) fun id hi => .bind (h.field _) fun init hn => .pure ?_
  exact ⟨wellFormed_node ⟨fits_child hi rfl, fits_child hn rfl⟩, rfl⟩

theorem sound_variableDeclaration : RuleSound why variableDeclaration := by
  intro f h
  have declarators : ReturnsUnless why
      ((f.constituents.filter (·.kind == "variable_declarator")).mapM
        fun p => variableDeclarator (f.inside p))
      fun ns => ∀ n ∈ ns, n.WellFormed f.source ∧ n.kind = "VariableDeclarator" :=
    .mapM fun p hp =>
      returnsUnless_variableDeclarator (.inside (h.constituent (List.mem_of_mem_filter hp)))
  refine .bind declarators fun ns hn => .pure ?_
  exact wellFormed_node ⟨fits_text rfl, fits_allOfKind hn rfl⟩

theorem sound_exportStatement : RuleSound why exportStatement := by
  intro f h
  refine .bind (h.field _) fun declaration hd => .ite (fun _ => ?_) fun _ => ?_
  · have default : ∀ n? : Option Node, (∀ n ∈ n?, n.WellFormed f.source) →
        ReturnsUnless why (pure (f.node "ExportDefaultDeclaration" [("declaration", .ofOption n?)]))
          (Node.WellFormed f.source) :=
      fun n? hn => .pure (wellFormed_node (fits_child hn rfl))
    cases declaration with
    | some n => exact default (some n) hd
    | none => exact .bind (h.field _) default
  · cases declaration with
    | some n => exact .pure (wellFormed_node (fits_one (hd n rfl) rfl))
    | none =>
      refine .bind h.allConstituents fun ns hn => .pure ?_
      exact wellFormed_node ⟨fits_null rfl, fits_list hn rfl⟩

/-! ### Functions -/

/-- What a parameter has besides the fields of its pattern fits every kind of node. -/
theorem returnsUnless_typedParameter {f : Form} (h : f.Sound why) :
    ReturnsUnless why (typedParameter f) fun n? => ∀ n ∈ n?, n.WellFormed f.source := by
  refine .bind (h.field _) fun pattern hp => ?_
  cases pattern with
  | none => exact .pure (by simp)
  | some pattern =>
    have marked : ∀ annotated : Node, annotated.WellFormed f.source →
        (if f.kind == "optional_parameter" then annotated.set "optional" (.bool true)
          else annotated).WellFormed f.source := by
      intro annotated ha
      split
      · exact ha.set (fits_flag (contentOf_optional _))
      · exact ha
    refine .bind (h.field _) fun annotation ha => .bind (h.field _) fun default hd => ?_
    -- the pattern with its type and its mark, which a default does not change
    generalize hn : (if f.kind == "optional_parameter" then _ else _ : Node) = n
    have whole : n.WellFormed f.source := by
      rw [← hn]
      refine marked _ ?_
      cases annotation with
      | none => exact hp pattern rfl
      | some annotation =>
        exact (hp pattern rfl).set (fits_one (ha annotation rfl) (contentOf_annotatedType _))
    cases default with
    | none => exact .pure (by simpa using whole)
    | some default =>
      refine .pure ?_
      rintro _ ⟨⟩
      exact wellFormed_node ⟨fits_one whole rfl, fits_one (hd default rfl) rfl⟩

theorem returnsUnless_parameter {f : Form} {p : Converted} (hp : PartSound why f.source p) :
    ReturnsUnless why (parameter f p) fun n? => ∀ n ∈ n?, n.WellFormed f.source := by
  refine .ite (fun _ => ?_) fun _ => ?_
  · exact returnsUnless_typedParameter (.inside hp)
  · exact .bind hp.value fun n hn => .pure (by simpa using hn)

theorem returnsUnless_parameters {f : Form} {o : Option Converted}
    (ho : ∀ p ∈ o, PartSound why f.source p) :
    ReturnsUnless why (parameters f o) fun ns => ∀ n ∈ ns, n.WellFormed f.source := by
  cases o with
  | none => exact .pure (by simp)
  | some p =>
    have hp := ho p rfl
    refine .ite (fun _ => ?_) fun _ => ?_
    · refine .bind (.mapM fun q hq => returnsUnless_parameter (hp.constituent hq)) fun ns hn => ?_
      refine .pure ?_
      intro n hm
      obtain ⟨n?, hn?, hm⟩ := List.mem_filterMap.1 hm
      exact hn n? hn? n hm
    · exact .bind hp.value fun n hn => .pure (by simpa using hn)

theorem returnsUnless_methodFunction {f : Form} (h : f.Sound why) :
    ReturnsUnless why (methodFunction f) fun n => n.WellFormed f.source ∧ n.kind = "FunctionExpression" := by
  refine .bind (returnsUnless_parameters fun p hp => h.child? hp) fun params hp => ?_
  refine .bind (h.field _) fun body hb => .pure ⟨wellFormed_node ?_, rfl⟩
  exact ⟨fits_null rfl, fits_list hp rfl, fits_child hb rfl, fits_flag rfl, fits_flag rfl⟩

theorem sound_function : RuleSound why function := by
  intro f h
  refine .bind (h.field _) fun id hi => ?_
  refine .bind (returnsUnless_parameters fun p hp => h.child? hp) fun params hp => ?_
  refine .bind (h.field _) fun body hb => .pure ?_
  split
  · exact wellFormed_node
      ⟨fits_child hi rfl, fits_list hp rfl, fits_child hb rfl, fits_flag rfl, fits_flag rfl⟩
  · exact wellFormed_node
      ⟨fits_child hi rfl, fits_list hp rfl, fits_child hb rfl, fits_flag rfl, fits_flag rfl⟩

theorem sound_arrowFunction : RuleSound why arrowFunction := by
  intro f h
  have single : ∀ p ∈ (f.child? "parameter").or (f.child? "parameters"),
      PartSound why f.source p := by
    intro p hp
    rcases Option.or_eq_some_iff.1 hp with hp | ⟨-, hp⟩
    · exact h.child? hp
    · exact h.child? hp
  refine .bind (returnsUnless_parameters single) fun params hp => ?_
  refine .bind (h.field _) fun body hb => .pure (wellFormed_node ?_)
  exact ⟨fits_null rfl, fits_list hp rfl, fits_child hb rfl, fits_flag rfl, fits_flag rfl⟩

/-! ### Classes -/

theorem sound_methodDefinition : RuleSound why methodDefinition := by
  intro f h
  refine .bind (returnsUnless_keyOf fun p hp => h.child? hp) fun key hk => ?_
  refine .bind (returnsUnless_methodFunction h) fun value hv => .pure (wellFormed_node ?_)
  exact ⟨fits_child hk rfl, fits_ofKind hv rfl, fits_text rfl, fits_flag rfl, fits_flag rfl⟩

theorem sound_classProperty : RuleSound why classProperty := by
  intro f h
  have name : ∀ p ∈ (f.child? "name").or (f.child? "property"), PartSound why f.source p := by
    intro p hp
    rcases Option.or_eq_some_iff.1 hp with hp | ⟨-, hp⟩
    · exact h.child? hp
    · exact h.child? hp
  refine .bind (returnsUnless_keyOf name) fun key hk => .bind (h.field _) fun value hv => ?_
  refine .bind (h.field _) fun annotation ha => .pure (wellFormed_node ?_)
  exact ⟨fits_child hk rfl, fits_child hv rfl, fits_child ha rfl, fits_flag rfl, fits_flag rfl⟩

theorem returnsUnless_classMember {f : Form} {p : Converted} (hp : PartSound why f.source p) :
    ReturnsUnless why (classMember f p) (Node.WellFormed f.source) := by
  refine .ite (fun _ => ?_) fun _ => .ite (fun _ => ?_) fun _ => ?_
  · exact sound_methodDefinition (f.inside p) (.inside hp)
  · exact sound_classProperty (f.inside p) (.inside hp)
  · exact hp.value

/-- A base class and its type arguments, both well formed if they are there. -/
structure BaseSound (source : SourceText) (base : Base) : Prop where
  superClass : ∀ n ∈ base.superClass, n.WellFormed source
  typeArguments : ∀ n ∈ base.typeArguments, n.WellFormed source

theorem returnsUnless_extendsBase {source : SourceText} {clause : Converted}
    (h : PartSound why source clause) :
    ReturnsUnless why (extendsBase clause) (BaseSound source) := by
  unfold extendsBase
  have arguments := returnsUnless_converted (o := clause.child? "type_arguments")
    fun p hp => h.child? hp
  cases hv : clause.child? "value" with
  | none => exact .bind arguments fun args ha => .pure ⟨by simp, ha⟩
  | some value =>
    have hvalue := h.child? hv
    refine .ite (fun _ => ?_) fun _ => ?_
    -- a base with type arguments of its own: both are parts of the value
    · cases hc : value.constituents with
      | nil => exact .throw (hvalue.bare (eq_of_beq ‹_›) hc)
      | cons first rest =>
        have hfirst := hvalue.constituent (hc ▸ List.mem_cons_self ..)
        refine .bind hfirst.value fun n hn => ?_
        refine .bind (returnsUnless_converted fun p hp => ?_) fun args ha =>
          .pure ⟨by simpa using hn, ha⟩
        exact hvalue.part (List.mem_of_find?_eq_some hp)
    · refine .bind hvalue.value fun n hn => ?_
      exact .bind arguments fun args ha => .pure ⟨by simpa using hn, ha⟩

theorem returnsUnless_classBase {f : Form} (h : f.Sound why) :
    ReturnsUnless why (classBase f) (BaseSound f.source) := by
  have absent : ReturnsUnless why (pure ⟨none, none⟩) (BaseSound f.source) :=
    .pure ⟨by simp, by simp⟩
  unfold classBase
  cases hh : f.constituents.find? (·.kind == "class_heritage") with
  | none => exact absent
  | some heritage =>
    have hheritage := h.constituent (List.mem_of_find?_eq_some hh)
    cases he : heritage.constituents.find? (·.kind == "extends_clause") with
    | some clause =>
      simp only [he]
      exact returnsUnless_extendsBase (hheritage.constituent (List.mem_of_find?_eq_some he))
    | none =>
      simp only [he]
      cases hf : heritage.parts.find? (·.head.named) with
      | none => exact absent
      | some first =>
        refine .ite (fun _ => absent) fun _ => ?_
        have hfirst := hheritage.part (List.mem_of_find?_eq_some hf)
        exact .bind hfirst.value fun n hn => .pure ⟨by simpa using hn, by simp⟩

theorem returnsUnless_classBody {f : Form} (h : f.Sound why) :
    ReturnsUnless why (classBody f) fun n => n.WellFormed f.source ∧ n.kind = "ClassBody" := by
  unfold classBody
  cases hb : f.child? "body" with
  | none => exact .pure ⟨wellFormed_node (fits_list (by simp) rfl), rfl⟩
  | some body =>
    have hbody := h.child? hb
    have members : ReturnsUnless why (body.constituents.mapM (classMember f))
        fun ns => ∀ n ∈ ns, n.WellFormed f.source :=
      .mapM fun p hp => returnsUnless_classMember (hbody.constituent hp)
    refine .bind members fun ns hn => .pure ?_
    exact ⟨wellFormed_nodeAt (fits_list hn rfl), rfl⟩

theorem sound_classDefinition : RuleSound why classDefinition := by
  intro f h
  refine .bind (returnsUnless_classBase h) fun base hs => ?_
  refine .bind (returnsUnless_classBody h) fun body hb => ?_
  refine .bind (h.field _) fun id hi => .pure ?_
  split
  · exact wellFormed_node ⟨fits_child hi rfl, fits_child hs.superClass rfl,
      fits_child hs.typeArguments rfl, fits_ofKind hb rfl⟩
  · exact wellFormed_node ⟨fits_child hi rfl, fits_child hs.superClass rfl,
      fits_child hs.typeArguments rfl, fits_ofKind hb rfl⟩

/-! ### Objects and arrays -/

theorem wellFormed_property {f : Form} {key value : Option Node} {computed shorthand method : Bool}
    (hk : ∀ n ∈ key, n.WellFormed f.source) (hv : ∀ n ∈ value, n.WellFormed f.source) :
    (property f key value computed shorthand method).WellFormed f.source :=
  wellFormed_node ⟨fits_child hk rfl, fits_child hv rfl, fits_flag rfl, fits_flag rfl,
    fits_flag rfl, fits_text rfl⟩

theorem sound_pairProperty : RuleSound why pairProperty := by
  intro f h
  refine .bind (returnsUnless_keyOf fun p hp => h.child? hp) fun key hk => ?_
  exact .bind (h.field _) fun value hv => .pure (wellFormed_property hk hv)

theorem sound_methodProperty : RuleSound why methodProperty := by
  intro f h
  refine .bind (returnsUnless_keyOf fun p hp => h.child? hp) fun key hk => ?_
  refine .bind (returnsUnless_methodFunction h) fun value hv => .pure (wellFormed_property hk ?_)
  simpa using hv.1

theorem returnsUnless_objectMember {f : Form} {p : Converted} (hp : PartSound why f.source p) :
    ReturnsUnless why (objectMember f p) (Node.WellFormed f.source) := by
  refine .ite (fun _ => ?_) fun _ => .ite (fun _ => ?_) fun _ => .ite (fun _ => ?_) fun _ => ?_
  · exact sound_pairProperty (f.inside p) (.inside hp)
  · refine .bind hp.value fun name hn => .pure ?_
    have named : ∀ m ∈ some name, m.WellFormed (f.inside p).source := by
      rintro _ ⟨⟩
      exact hn
    exact wellFormed_property named named
  · exact sound_methodProperty (f.inside p) (.inside hp)
  · exact hp.value

theorem sound_object : RuleSound why object := by
  intro f h
  refine .bind (.mapM fun p hp => returnsUnless_objectMember (h.constituent hp)) fun ns hn => ?_
  refine .pure ?_
  exact wellFormed_node (fits_list hn rfl)

theorem sound_objectPattern : RuleSound why objectPattern := ruleSound_all rfl

theorem sound_assignmentPattern : RuleSound why assignmentPattern := ruleSound_two rfl rfl

theorem sound_restElement : RuleSound why restElement := ruleSound_first rfl

theorem sound_spreadElement : RuleSound why spreadElement := ruleSound_first rfl

theorem sound_array : RuleSound why array := ruleSound_all rfl

/-! ### Access and calls -/

/-- Access to a member, by whichever field the member is told. -/
theorem sound_access (field : String) (computed : Bool) : RuleSound why fun f => do
    let object ← f.field "object"
    let property ← f.field field
    return f.node "MemberExpression"
      [("object", .ofOption object), ("property", .ofOption property), ("computed", .bool computed),
        ("optional", .bool (f.hasToken "?."))] := by
  intro f h
  refine .bind (h.field _) fun object ho => .bind (h.field _) fun property hp => .pure ?_
  exact wellFormed_node ⟨fits_child ho rfl, fits_child hp rfl, fits_flag rfl, fits_flag rfl⟩

theorem sound_member : RuleSound why member := sound_access "property" false

theorem sound_subscript : RuleSound why subscript := sound_access "index" true

theorem returnsUnless_arguments {source : SourceText} {o : Option Converted}
    (ho : ∀ p ∈ o, PartSound why source p) :
    ReturnsUnless why (arguments o) fun ns => ∀ n ∈ ns, n.WellFormed source := by
  cases o with
  | none => exact .pure (by simp)
  | some p => exact returnsUnless_values fun q hq => (ho p rfl).constituent hq

theorem returnsUnless_ordinary_call {f : Form} {callee : Option Node} (h : f.Sound why)
    (hc : ∀ n ∈ callee, n.WellFormed f.source) :
    ReturnsUnless why (call.ordinary f callee) (Node.WellFormed f.source) := by
  refine .bind (returnsUnless_arguments fun p hp => h.child? hp) fun arguments ha => ?_
  refine .bind (h.field _) fun typeArguments ht => .pure ?_
  exact wellFormed_node ⟨fits_child hc rfl, fits_list ha rfl, fits_child ht rfl⟩

theorem sound_call : RuleSound why call := by
  intro f h
  refine .bind (h.field _) fun callee hc => ?_
  cases ha : f.child? "arguments" with
  | none => exact returnsUnless_ordinary_call h hc
  | some p =>
    refine .ite (fun _ => ?_) fun _ => returnsUnless_ordinary_call h hc
    refine .bind (h.child? ha).value fun quasi hq => .pure ?_
    exact wellFormed_node ⟨fits_child hc rfl, fits_one hq rfl⟩

theorem sound_newExpression : RuleSound why newExpression := by
  intro f h
  refine .bind (h.field _) fun callee hc => ?_
  refine .bind (returnsUnless_arguments fun p hp => h.child? hp) fun arguments ha => .pure ?_
  exact wellFormed_node ⟨fits_child hc rfl, fits_list ha rfl⟩

/-! ### Operations -/

theorem sound_assignment : RuleSound why assignment := by
  intro f h
  refine .bind (h.field _) fun left hl => .bind (h.field _) fun right hr => .pure ?_
  exact wellFormed_node ⟨fits_text rfl, fits_child hl rfl, fits_child hr rfl⟩

theorem sound_conditional : RuleSound why conditional := by
  intro f h
  refine .bind (h.field _) fun test ht => .bind (h.field _) fun consequent hc => ?_
  refine .bind (h.field _) fun alternate ha => .pure ?_
  exact wellFormed_node ⟨fits_child ht rfl, fits_child hc rfl, fits_child ha rfl⟩

theorem sound_binary : RuleSound why binary := by
  intro f h
  refine .bind (h.field _) fun left hl => .bind (h.field _) fun right hr => .pure ?_
  split
  · exact wellFormed_node ⟨fits_text rfl, fits_child hl rfl, fits_child hr rfl⟩
  · exact wellFormed_node ⟨fits_text rfl, fits_child hl rfl, fits_child hr rfl⟩

theorem sound_unary : RuleSound why unary := by
  intro f h
  refine .bind (h.field _) fun argument ha => .pure ?_
  exact wellFormed_node ⟨fits_text rfl, fits_child ha rfl⟩

theorem sound_parenthesized : RuleSound why parenthesized := by
  intro f h
  unfold parenthesized
  split
  · next p hp => exact (h.constituent (hp ▸ List.mem_singleton_self p)).value
  · exact .bind h.allConstituents fun ns hn => .pure (wellFormed_node (fits_list hn rfl))

theorem sound_yieldExpression : RuleSound why yieldExpression := by
  intro f h
  refine .bind h.firstConstituent fun argument ha => .pure ?_
  exact wellFormed_node ⟨fits_child ha rfl, fits_flag rfl⟩

theorem sound_awaitExpression : RuleSound why awaitExpression := ruleSound_first rfl

theorem sound_markup : RuleSound why markup := by
  intro f h
  refine .bind h.allConstituents fun ns hn => .pure (wellFormed_node ?_)
  exact fits_list hn (contentOf_children _)

/-! ### Types -/

theorem sound_typeClaim {kind : String} (expression : contentOf kind "expression" = some .child) :
    RuleSound why (typeClaim kind) := by
  intro f h
  refine .bind h.firstConstituent fun n hn => ?_
  refine .bind (returnsUnless_typeOf? fun p hp => ?_) fun annotation ha =>
    .pure (wellFormed_node ?_)
  · exact h.constituent (List.mem_of_getElem? hp)
  · exact ⟨fits_child hn expression, fits_child ha (contentOf_annotatedType _)⟩

theorem sound_nonNull : RuleSound why nonNull := ruleSound_first rfl

theorem sound_interface : RuleSound why interface := by
  intro f h
  have declaration : ∀ body : Node, body.WellFormed f.source → body.kind = "TSInterfaceBody" →
      ReturnsUnless why (do
        let id ← f.field "name"
        return f.node "TSInterfaceDeclaration" [("id", .ofOption id), ("body", .node body)])
        (Node.WellFormed f.source) := by
    intro body hb hk
    refine .bind (h.field _) fun id hi => .pure ?_
    exact wellFormed_node ⟨fits_child hi rfl, fits_ofKind ⟨hb, hk⟩ rfl⟩
  unfold interface
  cases hb : f.child? "body" with
  | none => exact declaration _ (wellFormed_node (fits_list (by simp) rfl)) rfl
  | some body =>
    refine .bind (returnsUnless_values fun p hp => (h.child? hb).constituent hp) fun ns hn => ?_
    exact declaration _ (wellFormed_nodeAt (fits_list hn rfl)) rfl

theorem sound_typeAlias : RuleSound why typeAlias := by
  intro f h
  refine .bind (h.field _) fun id hi => ?_
  refine .bind (returnsUnless_typeOf? fun p hp => h.child? hp) fun annotation ha => .pure ?_
  exact wellFormed_node ⟨fits_child hi rfl, fits_child ha rfl⟩

theorem sound_typeLiteral : RuleSound why typeLiteral := ruleSound_all rfl

theorem sound_signature {kind typeField : String} (key : contentOf kind "key" = some .child)
    (computed : contentOf kind "computed" = some .flag) :
    RuleSound why (signature kind typeField) := by
  intro f h
  refine .bind (returnsUnless_keyOf fun p hp => h.child? hp) fun name hk => ?_
  refine .bind (h.field _) fun annotation ha => .pure (wellFormed_node ?_)
  exact ⟨fits_child hk key, fits_flag computed, fits_flag (contentOf_optional _),
    fits_child ha (contentOf_annotatedType _)⟩

theorem sound_typeAnnotation : RuleSound why typeAnnotation := by
  intro f h
  refine .bind (returnsUnless_typeOf? fun p hp => ?_) fun annotation ha => .pure ?_
  · exact h.constituent (List.mem_of_mem_head? hp)
  · exact wellFormed_node (fits_child ha rfl)

theorem sound_genericType : RuleSound why genericType := ruleSound_two rfl rfl

theorem sound_qualifiedName : RuleSound why qualifiedName := ruleSound_two rfl rfl

theorem sound_typeArguments : RuleSound why typeArguments := by
  intro f h
  refine .bind (.mapM fun p hp => returnsUnless_typeOf (h.constituent hp)) fun ns hn => .pure ?_
  exact wellFormed_node (fits_list hn rfl)

/-! ### Trees -/

end Conversion

namespace Concrete

mutual

/-- A tree and all trees under it, from the top down. -/
def nodes : Concrete → List Concrete
  | mk head children => mk head children :: nodesOfAll children

/-- All trees in a list of trees. -/
def nodesOfAll : List Concrete → List Concrete
  | [] => []
  | t :: ts => nodes t ++ nodesOfAll ts

end

theorem mem_nodes_self (tree : Concrete) : tree ∈ tree.nodes := by
  obtain ⟨head, children⟩ := tree
  exact List.mem_cons_self ..

theorem mem_nodesOfAll {t c : Concrete} {ts : List Concrete} (hc : c ∈ ts) (ht : t ∈ c.nodes) :
    t ∈ nodesOfAll ts := by
  induction ts with
  | nil => cases hc
  | cons d ts ih =>
    rcases List.mem_cons.1 hc with rfl | hc
    · exact List.mem_append_left _ ht
    · exact List.mem_append_right _ (ih hc)

theorem mem_nodes_of_mem_children {t c tree : Concrete} (hc : c ∈ tree.children)
    (ht : t ∈ c.nodes) : t ∈ tree.nodes := by
  obtain ⟨head, children⟩ := tree
  exact List.mem_cons_of_mem _ (mem_nodesOfAll hc ht)

end Concrete

namespace Conversion

/-- Why a concrete tree may become nothing. -/
inductive Limit (source : SourceText) (tree : Concrete) : Fault → Prop
  /-- A quoted literal has an escape above the last code point. -/
  | escape {t : Concrete} {v : ℕ} (mem : t ∈ tree.nodes) (kind : t.kind = "string")
    (spelled : .numeric v ∈ Text.scan (Text.withoutEnds (source.text t.span)))
    (large : 0x10FFFF < v) : Limit source tree (.codePointTooLarge v)
  /-- An instantiation has no constituent. -/
  | bare {t : Concrete} (mem : t ∈ tree.nodes) (kind : t.kind = "instantiation_expression")
    (none : ∀ c ∈ t.children, c.head.named = true → c.kind = "comment") :
    Limit source tree .noSuchItem

theorem Limit.below {source : SourceText} {t tree : Concrete} {fault : Fault}
    (h : Limit source t fault) (ht : t ∈ tree.children) : Limit source tree fault := by
  cases h with
  | escape mem kind spelled large =>
    exact .escape (Concrete.mem_nodes_of_mem_children ht mem) kind spelled large
  | bare mem kind none => exact .bare (Concrete.mem_nodes_of_mem_children ht mem) kind none


theorem sound_nameRules : ∀ entry ∈ nameRules, RuleSound why entry.2 := by
  simp [nameRules, sound_identifier]

theorem sound_statementRules : ∀ entry ∈ statementRules, RuleSound why entry.2 := by
  simp [statementRules, sound_program, sound_expressionStatement, sound_block,
    sound_returnStatement, sound_ifStatement, sound_whileStatement, sound_doWhileStatement,
    sound_forStatement, sound_forInStatement, sound_switchStatement, sound_catchClause,
    sound_variableDeclaration, sound_exportStatement]

theorem sound_functionRules : ∀ entry ∈ functionRules, RuleSound why entry.2 := by
  simp [functionRules, sound_classDefinition, sound_function, sound_arrowFunction]

theorem sound_expressionRules :
    ∀ entry ∈ expressionRules, entry = ("string", stringLiteral) ∨ RuleSound why entry.2 := by
  simp [expressionRules, sound_numberLiteral, sound_constant_bool,
    sound_constant_null, sound_thisExpression, sound_template, sound_object, sound_objectPattern,
    sound_assignmentPattern, sound_restElement, sound_spreadElement, sound_array, sound_member,
    sound_subscript, sound_call, sound_newExpression, sound_assignment, sound_conditional,
    sound_binary, sound_unary, sound_parenthesized, sound_yieldExpression, sound_awaitExpression,
    sound_markup]

theorem sound_typeRules : ∀ entry ∈ typeRules, RuleSound why entry.2 := by
  have claim : RuleSound why (typeClaim "TSAsExpression") := sound_typeClaim rfl
  have satisfies : RuleSound why (typeClaim "TSSatisfiesExpression") := sound_typeClaim rfl
  have property : RuleSound why (signature "TSPropertySignature" "type") := sound_signature rfl rfl
  have method : RuleSound why (signature "TSMethodSignature" "return_type") :=
    sound_signature rfl rfl
  simp [typeRules, claim, satisfies, property, method, sound_nonNull, sound_interface,
    sound_typeAlias, sound_typeLiteral, sound_typeAnnotation, sound_genericType,
    sound_qualifiedName, sound_typeArguments]

/-- The rule of every kind of concrete node is sound, that of quoted literals if their escapes
are. -/
theorem sound_ruleFor {f : Form} (h : f.Sound why)
    (escapes : f.kind = "string" → EscapesSound why f.text) :
    ReturnsUnless why (ruleFor f.kind f) (Node.WellFormed f.source) := by
  unfold ruleFor
  cases hr : rules.lookup f.kind with
  | none => exact sound_generic f h
  | some rule =>
    obtain ⟨front, back, heq, -⟩ := List.lookup_eq_some_iff.1 hr
    have mem : (f.kind, rule) ∈ rules := by simp [heq]
    -- the rules are kept in five tables, one after the other
    simp only [rules, List.mem_append] at mem
    rcases mem with (((hm | hm) | hm) | hm) | hm
    · exact sound_nameRules _ hm f h
    · exact sound_statementRules _ hm f h
    · exact sound_functionRules _ hm f h
    · rcases sound_expressionRules _ hm with he | sound
      · obtain ⟨hk, rfl⟩ := Prod.mk.inj he
        exact returnsUnless_stringLiteral (escapes hk)
      · exact sound f h
    · exact sound_typeRules _ hm f h

/-- All parts of a tree become well-formed nodes, unless the tree is a reason why not. -/
theorem partSound_convertAll (source : SourceText) : (tree : Concrete) →
    (∀ fault, Limit source tree fault → why fault) → PartSound why source (convertAll source tree)
  | .mk head children, limits => by
    -- by induction over the tree: a rule sees parts that are settled
    have inside : ∀ p ∈ children.map (convertAll source), PartSound why source p := by
      intro p hp
      obtain ⟨t, ht, rfl⟩ := List.mem_map.1 hp
      exact partSound_convertAll source t fun fault limit => limits fault (limit.below ht)
    rw [convertAll_mk]
    refine .mk (sound_ruleFor (f := ⟨source, head, _⟩) inside fun string v hv large => ?_) ?_ inside
    · exact limits _ (.escape (Concrete.mem_nodes_self _) string hv large)
    · intro instantiation none
      refine limits _ (.bare (Concrete.mem_nodes_self _) instantiation fun c hc => ?_)
      have hn := List.filter_eq_nil_iff.1 none _ (List.mem_map_of_mem hc)
      simpa [Part.isConstituent, Part.kind, Concrete.kind, convertAll] using hn

/-- A concrete tree becomes a well-formed node, unless there is a reason in it why not. -/
theorem convert_returnsUnless (source : SourceText) (tree : Concrete) :
    ReturnsUnless (Limit source tree) (convert source tree) (Node.WellFormed source) :=
  (partSound_convertAll source tree fun _ => id).value

/-- What a concrete tree becomes is well formed. -/
theorem convert_wellFormed {source : SourceText} {tree : Concrete} {n : Node}
    (h : convert source tree = .ok n) : n.WellFormed source :=
  (convert_returnsUnless source tree).of_eq_ok h

/-- What a tree of kind `program` becomes is a program. -/
theorem kind_of_program {source : SourceText} {tree : Concrete} {n : Node}
    (h : convert source tree = .ok n) (program : tree.kind = "program") : n.kind = "Program" := by
  rw [convert_eq, program] at h
  obtain ⟨body, -, hn⟩ := bind_eq_ok_iff.1
    (show Conversion.program ⟨source, tree.head, _⟩ = .ok n from h)
  rw [← Except.ok.inj hn]
  rfl

end Conversion

end PropOrder
