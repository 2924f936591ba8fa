import PropOrder.Conversion
import PropOrder.Proofs.Comments.Form

/-!
# Comments leave no trace in a program

A concrete tree with comments put in becomes the same as without them (`convert_commented`). The
first child of a declaration of variables tells the word that declares them, and the first named
child of a heritage without an extends clause is taken for the base class; no comment may be put in
front of these (`BehindBase`). One statement for each rule says that it gives the same, in the order
of the rules, and the tree is done from the bottom up.
-/

namespace PropOrder

/-- The spots that are not in front of the first child of a declaration of variables. -/
def BehindFirst : Place := fun s _ =>
  s.kind = "variable_declaration" ∨ s.kind = "lexical_declaration" → s.front ≠ []

/-- The spots that are not in front of the first child of a declaration of variables, nor in front
of the first named child of a heritage, unless that has an extends clause. -/
def BehindBase : Place := fun s back =>
  BehindFirst s back ∧ (s.kind = "class_heritage" →
    (∃ h ∈ s.front, h.named = true) ∨
      ∃ h ∈ s.front ++ back, h.named = true ∧ h.kind = "extends_clause")

namespace Conversion
open Form
variable {place : Place} {f f' : Form} {p p' : Converted}

theorem same_generic : RuleSame place generic := by
  intro f f' h
  simp only [generic, h.allConstituents, h.node, h.kind]

/-! ### Names and literals -/

theorem same_identifier : RuleSame place identifier := by
  intro f f' h
  simp only [identifier, h.node, h.text]

theorem same_stringLiteral : RuleSame place stringLiteral := by
  intro f f' h
  simp only [stringLiteral, literal, h.node, h.text]

theorem same_numberLiteral : RuleSame place numberLiteral := by
  intro f f' h
  simp only [numberLiteral, literal, h.node, h.text]

theorem same_constant (value : Slot Node) : RuleSame place (constant value) := by
  intro f f' h
  simp only [constant, literal, h.node, h.kind]

theorem same_thisExpression : RuleSame place thisExpression := by
  intro f f' h
  simp only [thisExpression, h.node]

theorem same_template : RuleSame place template := by
  intro f f' h
  simp only [template, h.node, h.text, h.allConstituents]

/-! ### Statements -/

theorem same_program : RuleSame place program := by
  intro f f' h
  simp only [program, h.node, h.allConstituents]

theorem same_expressionStatement : RuleSame place expressionStatement := by
  intro f f' h
  simp only [expressionStatement, h.node, h.firstConstituent]

theorem same_block : RuleSame place block := by
  intro f f' h
  simp only [block, h.node, h.allConstituents]

theorem same_returnStatement : RuleSame place returnStatement := by
  intro f f' h
  simp only [returnStatement, h.node, h.firstConstituent]

theorem rel_elseBranch? (h : FormAlike place f f') :
    Option.Rel (PartAlike place) (elseBranch? f) (elseBranch? f') := by
  unfold elseBranch?
  have clauses := h.child? (show "alternative" ≠ "" by decide)
  generalize f.child? "alternative" = o, f'.child? "alternative" = o' at clauses ⊢
  cases clauses with
  | none => exact .none
  | @some clause clause' hc =>
    simp only [hc.kind]
    split
    · exact rel_head?_of_forall₂ hc.constituents
    · exact .some hc

theorem same_ifStatement : RuleSame place ifStatement := by
  intro f f' h
  simp only [ifStatement, h.node, converted_eq (rel_elseBranch? h), h.field, ne_eq,
    String.reduceEq, not_false_eq_true]

theorem same_whileStatement : RuleSame place whileStatement := by
  intro f f' h
  simp (disch := decide) only [whileStatement, h.node, h.field]

theorem same_doWhileStatement : RuleSame place doWhileStatement := by
  intro f f' h
  simp (disch := decide) only [doWhileStatement, h.node, h.field]

theorem same_forStatement : RuleSame place forStatement := by
  intro f f' h
  simp (disch := decide) only [forStatement, h.node, h.field]

theorem loopKeyword?_eq (h : FormAlike place f f') : loopKeyword? f' = loopKeyword? f := by
  have word := h.parts.find? (fun c hc =>
    show (!c.head.named && ["var", "let", "const"].contains c.kind) = false by simp [hc.named])
    fun a b hab => by rw [hab.head, hab.kind]
  unfold loopKeyword?
  generalize f.parts.find? _ = o, f'.parts.find? _ = o' at word ⊢
  cases word with
  | none => rfl
  | some hp => exact congrArg some hp.kind

theorem loopTarget_eq (h : FormAlike place f f') : loopTarget f' = loopTarget f := by
  unfold loopTarget
  have left := h.child? (show "left" ≠ "" by decide)
  generalize f.child? "left" = o, f'.child? "left" = o' at left ⊢
  cases left with
  | none => rfl
  | some hp => simp only [hp.value, hp.span, loopKeyword?_eq h, h.nodeAt]

theorem same_forInStatement : RuleSame place forInStatement := by
  intro f f' h
  simp (disch := decide) only [forInStatement, h.node, h.field, h.hasToken, loopTarget_eq h]

theorem same_switchCase : RuleSame place switchCase := by
  intro f f' h
  have body := h.parts.filter (fun c hc =>
    show (c.head.field == "body" && c.kind != "comment") = false by simp [hc.field])
    fun a b hab => by rw [hab.head, hab.kind]
  simp (disch := decide) only [switchCase, h.node, h.field, values_eq body]

theorem forall₂_switchCases (h : FormAlike place f f') :
    List.Forall₂ (PartAlike place) (switchCases f) (switchCases f') := by
  unfold switchCases
  have body := h.child? (show "body" ≠ "" by decide)
  generalize f.child? "body" = o, f'.child? "body" = o' at body ⊢
  cases body with
  | none => exact .nil
  | some hp =>
    exact forall₂_filter_kind hp.constituents fun kind =>
      kind == "switch_case" || kind == "switch_default"

theorem same_switchStatement : RuleSame place switchStatement := by
  intro f f' h
  have cases := mapM_eq_of_forall₂ (forall₂_switchCases h) fun a b hab =>
    same_switchCase (f.inside a) (f'.inside b) (hab.inside h)
  simp (disch := decide) only [switchStatement, h.node, h.field, cases]

theorem same_catchClause : RuleSame place catchClause := by
  intro f f' h
  simp (disch := decide) only [catchClause, h.node, h.field]

theorem same_variableDeclarator : RuleSame place variableDeclarator := by
  intro f f' h
  simp (disch := decide) only [variableDeclarator, h.node, h.field]

/-- No comment is put in front of the first child of a declaration. -/
theorem same_variableDeclaration (h : FormAlike BehindBase f f')
    (declares : f.kind = "variable_declaration" ∨ f.kind = "lexical_declaration") :
    variableDeclaration f' = variableDeclaration f := by
  have declarators := mapM_eq_of_forall₂
    (forall₂_filter_kind h.constituents fun kind => kind == "variable_declarator")
    fun a b hab => same_variableDeclarator (f.inside a) (f'.inside b) (hab.inside h)
  simp only [variableDeclaration, h.node, declarators]
  have parts := h.parts
  generalize f.parts = ps, f'.parts = ps' at parts ⊢
  cases parts with
  | nil => rfl
  | keep hp _ => simp only [hp.kind]
  | comment _ free _ => exact absurd rfl (free.1 declares)

theorem same_exportStatement : RuleSame place exportStatement := by
  intro f f' h
  simp (disch := decide) only [exportStatement, h.node, h.field, h.hasToken, h.allConstituents]

/-! ### Functions -/

theorem same_typedParameter (h : FormAlike place f f') :
    typedParameter f' = typedParameter f := by
  simp (disch := decide) only [typedParameter, h.node, h.field, h.kind]

theorem parameter_eq (h : FormAlike place f f') (hp : PartAlike place p p') :
    parameter f' p' = parameter f p := by
  simp only [parameter, hp.kind, hp.value, same_typedParameter (hp.inside h)]

theorem parameters_eq (h : FormAlike place f f') {o o' : Option Converted}
    (ho : Option.Rel (PartAlike place) o o') : parameters f' o' = parameters f o := by
  cases ho with
  | none => rfl
  | some hp =>
    have each := mapM_eq_of_forall₂ hp.constituents fun a b hab => parameter_eq h hab
    simp only [parameters, hp.kind, hp.value, each]

theorem same_methodFunction : RuleSame place methodFunction := by
  intro f f' h
  simp (disch := decide) only [methodFunction, h.node, h.field, h.hasToken,
    parameters_eq h (h.child? (show "parameters" ≠ "" by decide))]

theorem same_function : RuleSame place function := by
  intro f f' h
  simp (disch := decide) only [function, h.node, h.field, h.hasToken, h.kind,
    parameters_eq h (h.child? (show "parameters" ≠ "" by decide))]

theorem rel_or {o o' u u' : Option Converted} (ho : Option.Rel (PartAlike place) o o')
    (hu : Option.Rel (PartAlike place) u u') :
    Option.Rel (PartAlike place) (o.or u) (o'.or u') := by
  cases ho with
  | none => exact hu
  | some hp => exact .some hp

theorem same_arrowFunction : RuleSame place arrowFunction := by
  intro f f' h
  have params := rel_or (h.child? (show "parameter" ≠ "" by decide))
    (h.child? (show "parameters" ≠ "" by decide))
  simp (disch := decide) only [arrowFunction, h.node, h.field, h.hasToken, parameters_eq h params]

/-! ### Classes -/

theorem same_methodDefinition : RuleSame place methodDefinition := by
  intro f f' h
  have key := keyOf_eq (h.child? (show "name" ≠ "" by decide))
  simp only [methodDefinition, methodKind, h.node, h.hasToken, key, same_methodFunction f f' h]

theorem same_classProperty : RuleSame place classProperty := by
  intro f f' h
  have key := keyOf_eq (rel_or (h.child? (show "name" ≠ "" by decide))
    (h.child? (show "property" ≠ "" by decide)))
  simp (disch := decide) only [classProperty, h.node, h.field, h.hasToken, key]

theorem classMember_eq (h : FormAlike place f f') (hp : PartAlike place p p') :
    classMember f' p' = classMember f p := by
  have inside := hp.inside h
  simp only [classMember, hp.kind, hp.value, same_methodDefinition _ _ inside,
    same_classProperty _ _ inside]

theorem extendsBase_eq (hp : PartAlike place p p') : extendsBase p' = extendsBase p := by
  have arguments := converted_eq (hp.child? (show "type_arguments" ≠ "" by decide))
  have values := hp.child? (show "value" ≠ "" by decide)
  simp only [extendsBase, arguments]
  generalize p.child? "value" = o, p'.child? "value" = o' at values ⊢
  cases values with
  | none => rfl
  | @some v v' hv =>
    have given := hv.inserted.find? (fun c hc =>
      show (c.head.named && c.kind == "type_arguments") = false by simp [Part.kind, hc.kind])
      fun a b hab => by rw [hab.head, hab.kind]
    have constituents := hv.constituents
    simp only [hv.kind, hv.value, converted_eq given]
    generalize v.constituents = l, v'.constituents = l' at constituents ⊢
    cases constituents with
    | nil => rfl
    | cons ha _ => simp only [ha.value]

/-- No comment is put in front of the first named child of a heritage without an extends
clause. -/
theorem rel_firstNamed {s : Spot} {l l' : List Converted}
    (h : Inserted (PartAlike BehindBase) Part.head BehindBase s l l')
    (heritage : s.kind = "class_heritage") (unnamed : ∀ h ∈ s.front, h.named = false)
    (plain : ∀ p ∈ l, p.head.named = true → p.kind ≠ "extends_clause") :
    Option.Rel (PartAlike BehindBase) (l.find? (·.head.named)) (l'.find? (·.head.named)) := by
  induction h with
  | nil => exact .none
  | @keep s a b l l' hab _ ih =>
    rw [List.find?_cons, List.find?_cons, hab.head]
    cases named : a.head.named with
    | true => exact .some hab
    | false =>
      refine ih heritage ?_ fun p hp => plain p (List.mem_cons_of_mem _ hp)
      intro h hh
      rcases List.mem_append.1 hh with hh | hh
      · exact unnamed h hh
      · rw [List.mem_singleton.1 hh]
        exact named
  | @comment s c l l' _ free _ _ =>
    -- a comment here would have to stand behind a named child or beside an extends clause
    exfalso
    rcases free.2 heritage with ⟨h, hh, named⟩ | ⟨h, hh, named, clause⟩
    · rw [unnamed h hh] at named
      cases named
    · rcases List.mem_append.1 hh with hh | hh
      · rw [unnamed h hh] at named
        cases named
      · obtain ⟨p, hp, rfl⟩ := List.mem_map.1 hh
        exact plain p hp named clause

/-- The base class of a heritage without an extends clause. -/
theorem rel_heritage {p p' : Converted} (hp : PartAlike BehindBase p p')
    (heritage : p.kind = "class_heritage")
    (plain : p.constituents.find? (·.kind == "extends_clause") = none) :
    Option.Rel (PartAlike BehindBase) (p.parts.find? (·.head.named))
      (p'.parts.find? (·.head.named)) := by
  refine rel_firstNamed hp.inserted heritage (by simp) fun q hq named clause => ?_
  have constituent : q ∈ p.constituents := by
    refine List.mem_filter.2 ⟨hq, ?_⟩
    have kind : q.kind = "extends_clause" := clause
    simp [Part.isConstituent, named, kind]
  exact List.find?_eq_none.1 plain q constituent (beq_iff_eq.2 clause)

theorem classBase_eq (h : FormAlike BehindBase f f') : classBase f' = classBase f := by
  have heritages := rel_find?_kind h.constituents fun kind => kind == "class_heritage"
  unfold classBase
  generalize ho : f.constituents.find? (·.kind == "class_heritage") = o,
    f'.constituents.find? (·.kind == "class_heritage") = o' at heritages ⊢
  cases heritages with
  | none => rfl
  | @some p p' hp =>
    have heritage : p.kind = "class_heritage" := by simpa using List.find?_some ho
    have clauses := rel_find?_kind hp.constituents fun kind => kind == "extends_clause"
    have plain := rel_heritage hp heritage
    simp only
    generalize p.constituents.find? (·.kind == "extends_clause") = u,
      p'.constituents.find? (·.kind == "extends_clause") = u' at clauses plain ⊢
    cases clauses with
    | some hc => exact extendsBase_eq hc
    | none =>
      have first := plain rfl
      simp only
      generalize p.parts.find? (·.head.named) = v, p'.parts.find? (·.head.named) = v' at first ⊢
      cases first with
      | none => rfl
      | some hq => simp only [hq.kind, hq.value]

theorem classBody_eq (h : FormAlike place f f') : classBody f' = classBody f := by
  unfold classBody
  have body := h.child? (show "body" ≠ "" by decide)
  generalize f.child? "body" = o, f'.child? "body" = o' at body ⊢
  cases body with
  | none => simp only [h.node]
  | some hp =>
    have members := mapM_eq_of_forall₂ hp.constituents fun a b hab => classMember_eq h hab
    simp only [hp.span, h.nodeAt, members]

theorem same_classDefinition : RuleSame BehindBase classDefinition := by
  intro f f' h
  simp (disch := decide) only [classDefinition, h.node, h.field, h.kind, classBase_eq h,
    classBody_eq h]

/-! ### Objects and arrays -/

theorem property_eq (h : FormAlike place f f') :
    property f' = property f := by
  funext key value computed shorthand method
  simp only [property, h.node]

theorem same_pairProperty : RuleSame place pairProperty := by
  intro f f' h
  have key := keyOf_eq (h.child? (show "key" ≠ "" by decide))
  simp (disch := decide) only [pairProperty, h.field, property_eq h, key]

theorem same_methodProperty : RuleSame place methodProperty := by
  intro f f' h
  have key := keyOf_eq (h.child? (show "name" ≠ "" by decide))
  simp only [methodProperty, property_eq h, key, same_methodFunction f f' h]

theorem objectMember_eq (h : FormAlike place f f') (hp : PartAlike place p p') :
    objectMember f' p' = objectMember f p := by
  have inside := hp.inside h
  simp only [objectMember, hp.kind, hp.value, same_pairProperty _ _ inside,
    same_methodProperty _ _ inside, property_eq inside]

theorem same_object : RuleSame place object := by
  intro f f' h
  have members := mapM_eq_of_forall₂ h.constituents fun a b hab => objectMember_eq h hab
  simp only [object, h.node, members]

theorem same_objectPattern : RuleSame place objectPattern := by
  intro f f' h
  simp only [objectPattern, h.node, h.allConstituents]

theorem same_assignmentPattern : RuleSame place assignmentPattern := by
  intro f f' h
  simp (disch := decide) only [assignmentPattern, h.node, h.field]

theorem same_restElement : RuleSame place restElement := by
  intro f f' h
  simp only [restElement, h.node, h.firstConstituent]

theorem same_spreadElement : RuleSame place spreadElement := by
  intro f f' h
  simp only [spreadElement, h.node, h.firstConstituent]

theorem same_array : RuleSame place array := by
  intro f f' h
  simp only [array, h.node, h.allConstituents]

/-! ### Access and calls -/

theorem same_member : RuleSame place member := by
  intro f f' h
  simp (disch := decide) only [member, h.node, h.field, h.hasToken]

theorem same_subscript : RuleSame place subscript := by
  intro f f' h
  simp (disch := decide) only [subscript, h.node, h.field, h.hasToken]

theorem arguments_eq {o o' : Option Converted} (ho : Option.Rel (PartAlike place) o o') :
    arguments o' = arguments o := by
  cases ho with
  | none => rfl
  | some hp => exact values_eq hp.constituents

theorem ordinary_eq (h : FormAlike place f f') (callee : Option Node) :
    call.ordinary f' callee = call.ordinary f callee := by
  have arguments := arguments_eq (h.child? (show "arguments" ≠ "" by decide))
  simp (disch := decide) only [call.ordinary, h.node, h.field, arguments]

theorem same_call : RuleSame place call := by
  intro f f' h
  have arguments := h.child? (show "arguments" ≠ "" by decide)
  simp (disch := decide) only [call, h.node, h.field, ordinary_eq h]
  generalize f.child? "arguments" = o, f'.child? "arguments" = o' at arguments ⊢
  cases arguments with
  | none => rfl
  | some hp => simp only [hp.kind, hp.value]

theorem same_newExpression : RuleSame place newExpression := by
  intro f f' h
  have arguments := arguments_eq (h.child? (show "arguments" ≠ "" by decide))
  simp (disch := decide) only [newExpression, h.node, h.field, arguments]

/-! ### Operations -/

theorem operatorOr_eq (h : FormAlike place f f') (missing : String) :
    operatorOr f' missing = operatorOr f missing := by
  unfold operatorOr
  have operator := h.child? (show "operator" ≠ "" by decide)
  generalize f.child? "operator" = o, f'.child? "operator" = o' at operator ⊢
  cases operator with
  | none => rfl
  | some hp => exact hp.kind

theorem same_assignment : RuleSame place assignment := by
  intro f f' h
  simp (disch := decide) only [assignment, h.node, h.field, operatorOr_eq h]

theorem same_conditional : RuleSame place conditional := by
  intro f f' h
  simp (disch := decide) only [conditional, h.node, h.field]

theorem same_binary : RuleSame place binary := by
  intro f f' h
  simp (disch := decide) only [binary, h.node, h.field, operatorOr_eq h]

theorem same_unary : RuleSame place unary := by
  intro f f' h
  simp (disch := decide) only [unary, h.node, h.field, operatorOr_eq h]

theorem same_parenthesized : RuleSame place parenthesized := by
  intro f f' h
  have constituents := h.constituents
  simp only [parenthesized, h.node, h.allConstituents]
  generalize f.constituents = l, f'.constituents = l' at constituents ⊢
  cases constituents with
  | nil => rfl
  | cons ha rest =>
    cases rest with
    | nil => exact ha.value
    | cons _ _ => rfl

theorem same_yieldExpression : RuleSame place yieldExpression := by
  intro f f' h
  simp only [yieldExpression, h.node, h.firstConstituent, h.hasToken]

theorem same_awaitExpression : RuleSame place awaitExpression := by
  intro f f' h
  simp only [awaitExpression, h.node, h.firstConstituent]

theorem same_markup : RuleSame place markup := by
  intro f f' h
  have nameless : (f'.child? "open_tag").any (fun tag => (tag.child? "name").isNone) =
      (f.child? "open_tag").any fun tag => (tag.child? "name").isNone := by
    have tags := h.child? (show "open_tag" ≠ "" by decide)
    generalize f.child? "open_tag" = o, f'.child? "open_tag" = o' at tags ⊢
    cases tags with
    | none => rfl
    | @some tag tag' ht =>
      have named := isSome_eq_of_rel (ht.child? (show "name" ≠ "" by decide))
      simp only [Option.any_some, ← Option.not_isSome, named]
  simp only [markup, h.node, h.kind, h.allConstituents, nameless]

/-! ### Types -/

theorem rel_getElem? {l l' : List Converted} (h : List.Forall₂ (PartAlike place) l l') (n : ℕ) :
    Option.Rel (PartAlike place) l[n]? l'[n]? := by
  induction h generalizing n with
  | nil => exact .none
  | cons ha _ ih =>
    cases n with
    | zero => exact .some ha
    | succ n => simpa using ih n

theorem same_typeClaim (kind : String) : RuleSame place (typeClaim kind) := by
  intro f f' h
  have annotation := h.typeOf? (rel_getElem? h.constituents 1)
  simp only [typeClaim, h.node, h.firstConstituent, annotation]

theorem same_nonNull : RuleSame place nonNull := by
  intro f f' h
  simp only [nonNull, h.node, h.firstConstituent]

theorem same_interface : RuleSame place interface := by
  intro f f' h
  have body := h.child? (show "body" ≠ "" by decide)
  simp (disch := decide) only [interface, h.node, h.nodeAt, h.field]
  generalize f.child? "body" = o, f'.child? "body" = o' at body ⊢
  cases body with
  | none => rfl
  | some hp => simp only [hp.span, values_eq hp.constituents]

theorem same_typeAlias : RuleSame place typeAlias := by
  intro f f' h
  have annotation := h.typeOf? (h.child? (show "value" ≠ "" by decide))
  simp (disch := decide) only [typeAlias, h.node, h.field, annotation]

theorem same_typeLiteral : RuleSame place typeLiteral := by
  intro f f' h
  simp only [typeLiteral, h.node, h.allConstituents]

theorem same_signature {typeField : String} (kind : String) (hn : typeField ≠ "") :
    RuleSame place (signature kind typeField) := by
  intro f f' h
  have key := keyOf_eq (h.child? (show "name" ≠ "" by decide))
  simp only [signature, h.node, h.field hn, h.hasToken, key]

theorem same_typeAnnotation : RuleSame place typeAnnotation := by
  intro f f' h
  have annotation := h.typeOf? (rel_head?_of_forall₂ h.constituents)
  simp only [h.node, annotation, typeAnnotation]

theorem same_genericType : RuleSame place genericType := by
  intro f f' h
  simp (disch := decide) only [genericType, h.node, h.field]

theorem same_qualifiedName : RuleSame place qualifiedName := by
  intro f f' h
  simp (disch := decide) only [qualifiedName, h.node, h.field]

theorem same_typeArguments : RuleSame place typeArguments := by
  intro f f' h
  have types := mapM_eq_of_forall₂ h.constituents fun a b hab => h.typeOf hab
  simp only [typeArguments, h.node, types]

/-! ### Tables of rules -/

theorem same_nameRules : ∀ entry ∈ nameRules, RuleSame place entry.2 := by
  simp [nameRules, same_identifier]

theorem same_statementRules : ∀ entry ∈ statementRules,
    entry = ("variable_declaration", variableDeclaration) ∨
      entry = ("lexical_declaration", variableDeclaration) ∨ RuleSame place entry.2 := by
  simp [statementRules, same_program, same_expressionStatement, same_block, same_returnStatement,
    same_ifStatement, same_whileStatement, same_doWhileStatement, same_forStatement,
    same_forInStatement, same_switchStatement, same_catchClause, same_exportStatement]

theorem same_functionRules : ∀ entry ∈ functionRules, RuleSame BehindBase entry.2 := by
  simp [functionRules, same_classDefinition, same_function, same_arrowFunction]

theorem same_expressionRules : ∀ entry ∈ expressionRules, RuleSame place entry.2 := by
  simp [expressionRules, same_stringLiteral, same_numberLiteral, same_constant,
    same_thisExpression, same_template, same_object, same_objectPattern, same_assignmentPattern,
    same_restElement, same_spreadElement, same_array, same_member, same_subscript, same_call,
    same_newExpression, same_assignment, same_conditional, same_binary, same_unary,
    same_parenthesized, same_yieldExpression, same_awaitExpression, same_markup]

theorem same_typeRules : ∀ entry ∈ typeRules, RuleSame place entry.2 := by
  simp [typeRules, same_typeClaim, same_signature, same_nonNull, same_interface, same_typeAlias,
    same_typeLiteral, same_typeAnnotation, same_genericType, same_qualifiedName,
    same_typeArguments]

/-- The rule of its kind gives the same for a form with comments put in. -/
theorem same_ruleFor (h : FormAlike BehindBase f f') : ruleFor f.kind f' = ruleFor f.kind f := by
  unfold ruleFor
  cases hr : rules.lookup f.kind with
  | none => exact same_generic f f' h
  | some rule =>
    obtain ⟨front, back, heq, -⟩ := List.lookup_eq_some_iff.1 hr
    have mem : (f.kind, rule) ∈ rules := by simp [heq]
    -- the rules are kept in five tables, one after the other
    simp only [rules, List.mem_append] at mem
    rcases mem with (((hm | hm) | hm) | hm) | hm
    · exact same_nameRules _ hm f f' h
    · rcases same_statementRules _ hm with he | he | same
      · obtain ⟨hk, rfl⟩ := Prod.mk.inj he
        exact same_variableDeclaration h (.inl hk)
      · obtain ⟨hk, rfl⟩ := Prod.mk.inj he
        exact same_variableDeclaration h (.inr hk)
      · exact same f f' h
    · exact same_functionRules _ hm f f' h
    · exact same_expressionRules _ hm f f' h
    · exact same_typeRules _ hm f f' h

/-! ### Trees -/

/-- The nodes of a tree become the same with comments put in. -/
theorem partAlike_convertAll (source : SourceText) : (tree tree' : Concrete) →
    Commented BehindBase tree tree' →
      PartAlike BehindBase (convertAll source tree) (convertAll source tree')
  | .mk head children, .mk _ children', .mk inserted => by
    -- by induction over the tree: a rule sees parts that are alike
    have parts : Inserted (PartAlike BehindBase) Part.head BehindBase ⟨head.kind, []⟩
        (children.map (convertAll source)) (children'.map (convertAll source)) :=
      inserted.map (Concrete.head_annotate _) fun t ht t' => partAlike_convertAll source t t'
    have forms : FormAlike BehindBase ⟨source, head, children.map (convertAll source)⟩
        ⟨source, head, children'.map (convertAll source)⟩ := ⟨rfl, rfl, parts⟩
    have same : ruleFor head.kind ⟨source, head, children'.map (convertAll source)⟩ =
        ruleFor head.kind ⟨source, head, children.map (convertAll source)⟩ := same_ruleFor forms
    rw [convertAll_mk, convertAll_mk, same]
    exact .mk parts

/-- Comments leave no trace in what a tree becomes, as long as none is put in front of the first
child of a declaration of variables, or where the base class of a class is looked for. -/
theorem convert_commented {source : SourceText} {tree tree' : Concrete}
    (h : Commented BehindBase tree tree') : convert source tree' = convert source tree :=
  (partAlike_convertAll source tree tree' h).value

/-- The source `class A extends /*c*/ B {}`. -/
def derivedSource : SourceText := ⟨#[
  99, 108, 97, 115, 115, 32, 65, 32, 101, 120, 116, 101, 110, 100, 115, 32, 47, 42, 99, 42, 47,
  32, 66, 32, 123, 125]⟩

/-- The concrete tree of a `derivedSource`, with given nodes in the heritage of the class. -/
def derivedTree (heritage : List Concrete) : Concrete :=
  .mk ⟨true, "program", "", ⟨0, 26⟩⟩ [
    .mk ⟨true, "class_declaration", "", ⟨0, 26⟩⟩ [
      .mk ⟨false, "class", "", ⟨0, 5⟩⟩ [],
      .mk ⟨true, "identifier", "name", ⟨6, 7⟩⟩ [],
      .mk ⟨true, "class_heritage", "", ⟨8, 23⟩⟩ heritage,
      .mk ⟨true, "class_body", "body", ⟨24, 26⟩⟩ []]]

/-- The nodes of `extends B`, with others in front of the base class, which is held under a given
field. -/
def extending (front : List Concrete) (field : String) : List Concrete :=
  .mk ⟨false, "extends", "", ⟨8, 15⟩⟩ [] :: front ++
    [.mk ⟨true, "identifier", field, ⟨22, 23⟩⟩ []]

/-- The nodes of `extends B` in an extends clause. -/
def extendingClause (front : List Concrete) : List Concrete :=
  [.mk ⟨true, "extends_clause", "", ⟨8, 23⟩⟩ (extending front "value")]

/-- The comment of a `derivedSource`. -/
def remark : Concrete := .mk ⟨true, "comment", "", ⟨16, 21⟩⟩ []

theorem commented_extending {place : Place} {kind field : String}
    (free : ∀ before after, before ≠ [] → place ⟨kind, before⟩ after) :
    Inserted (Commented place) Concrete.head place ⟨kind, []⟩ (extending [] field)
      (extending [remark] field) :=
  .keep (.refl _) (.comment ⟨rfl, rfl, rfl⟩ (free _ _ (by simp))
    (.keep (.refl _) .nil))

theorem commented_derivedTree {place : Place} {heritage heritage' : List Concrete}
    (h : Inserted (Commented place) Concrete.head place ⟨"class_heritage", []⟩ heritage heritage') :
    Commented place (derivedTree heritage) (derivedTree heritage') :=
  .mk (.keep (.mk (.keep (.refl _) (.keep (.refl _) (.keep (.mk h) (.keep (.refl _) .nil))))) .nil)

theorem convert_extendingClause :
    Commented BehindBase (derivedTree (extendingClause []))
        (derivedTree (extendingClause [remark])) ∧
      convert derivedSource (derivedTree (extendingClause [remark])) =
        convert derivedSource (derivedTree (extendingClause [])) := by
  have commented : Commented BehindBase (derivedTree (extendingClause []))
      (derivedTree (extendingClause [remark])) := by
    refine commented_derivedTree (.keep (.mk (commented_extending ?_)) .nil)
    exact fun before after nonempty => ⟨fun _ => nonempty, by simp⟩
  exact ⟨commented, convert_commented commented⟩

/-- The kind of the base class of the first class of a program. -/
def baseKind (n : Node) : Option String := do
  let c ← (n.get "body").nodeList.head?
  let b ← (c.get "superClass").nodeList.head?
  return b.kind

/-- Without an extends clause, a comment in front of the base class takes its place. -/
theorem convert_extending_ne :
    Commented BehindFirst (derivedTree (extending [] "")) (derivedTree (extending [remark] "")) ∧
      convert derivedSource (derivedTree (extending [remark] "")) ≠
        convert derivedSource (derivedTree (extending [] "")) := by
  have commented : Commented BehindFirst (derivedTree (extending [] ""))
      (derivedTree (extending [remark] "")) :=
    commented_derivedTree (commented_extending fun _ _ nonempty _ => nonempty)
  refine ⟨commented, fun same => ?_⟩
  have base : ((convert derivedSource (derivedTree (extending [] ""))).toOption.bind baseKind) =
      some "Identifier" := by
    decide +kernel
  have taken : ((convert derivedSource (derivedTree (extending [remark] ""))).toOption.bind
      baseKind) = some "comment" := by
    decide +kernel
  rw [same, base] at taken
  exact absurd taken (by decide)

end Conversion

end PropOrder
