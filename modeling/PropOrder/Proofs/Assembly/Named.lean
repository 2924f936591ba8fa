import PropOrder.Proofs.Assembly.Linked

/-!
# Names of identifiers

Every identifier of a converted program has a name, and the name is its text in the source
(`get_name_of_isIdentifier`). That a name is such a text is known of well-formed programs; that it
is there is seen on the objects: what is made as an identifier is made with a name, and no name is
taken away later, so that the store is left with named identifiers only by whatever rule
(`Keeps`). A kind of concrete nodes without a rule of its own must not be called so.
-/

namespace PropOrder.Assembly

/-- An object that has a name if it is an identifier. -/
def Named (o : Object) : Prop :=
  o.head.kind = "Identifier" → ∃ t, o.fields.lookup "name" = some (.text t)

/-- A making that leaves named identifiers only if it finds no others. -/
def Keeps {α : Type} (p : Making α) : Prop :=
  ∀ σ a τ, p.run σ = .ok (a, τ) → (∀ o ∈ σ, Named o) → ∀ o ∈ τ, Named o

theorem lookup_set_of_ne {α : Type} {name other : String} (ne : other ≠ name) (slot : Slot α)
    (fields : Fields α) : (fields.set name slot).lookup other = fields.lookup other := by
  induction fields with
  | nil => rw [Fields.set, List.lookup_cons, beq_false_of_ne ne]
  | cons field rest ih =>
    obtain ⟨first, old⟩ := field
    rw [Fields.set]
    split
    · next same =>
      -- the field that is set has the other name
      rw [eq_of_beq same, List.lookup_cons, List.lookup_cons, beq_false_of_ne ne]
    · rw [List.lookup_cons, List.lookup_cons, ih]

/-! ### Steps -/

namespace Keeps
variable {α β : Type} {p : Making α} {k : α → Making β}

theorem pure (a : α) : Keeps (pure a) := by
  intro σ _ τ run named
  cases run
  exact named

theorem throw (fault : Fault) : Keeps (throw fault : Making α) := by
  intro σ a τ run
  cases run

/-- A step that makes no objects. -/
theorem lift (m : Except Fault α) : Keeps (liftM m) := by
  intro σ a τ run named
  cases m with
  | ok a => cases run; exact named
  | error fault => cases run

theorem bind (h : Keeps p) (hk : ∀ a, Keeps (k a)) : Keeps (p >>= k) := by
  intro σ b τ run named
  rw [StateT.run_bind] at run
  cases hp : p.run σ with
  | error fault => rw [hp] at run; cases run
  | ok made =>
    obtain ⟨a, between⟩ := made
    rw [hp] at run
    exact hk a between b τ run (h σ a between hp named)

theorem ite {c : Prop} [Decidable c] {q : Making α} (hp : Keeps p) (hq : Keeps q) :
    Keeps (if c then p else q) := by
  split
  · exact hp
  · exact hq

theorem look (view : Store → α) : Keeps (look view) := by
  intro σ _ τ run named
  cases run
  exact named

theorem makeObject {head : Head} {fields : Fields Ref} (named : Named ⟨head, fields, none⟩) :
    Keeps (makeObject head fields) := by
  intro σ _ τ run found o ho
  cases run
  rcases List.mem_append.1 ho with ho | ho
  · exact found o ho
  · exact List.mem_singleton.1 ho ▸ named

/-- No name is taken away when another field is set. -/
theorem setField {r : Ref} {name : String} {slot : Slot Ref} (ne : "name" ≠ name) :
    Keeps (setField r name slot) := by
  intro σ _ τ run found o ho
  cases run
  obtain ⟨c, hc⟩ := List.mem_iff_getElem?.1 (show o ∈ σ.setField r name slot from ho)
  rw [Store.setField, List.getElem?_modify] at hc
  obtain ⟨old, hold, rfl⟩ := Option.map_eq_some_iff.1 hc
  have named := found old (List.mem_of_getElem? hold)
  split
  · intro identifier
    rw [lookup_set_of_ne ne]
    exact named identifier
  · exact named

theorem mapM {ι : Type} {f : ι → Making α} {l : List ι} (h : ∀ i ∈ l, Keeps (f i)) :
    Keeps (l.mapM f) := by
  induction l with
  | nil => exact .pure []
  | cons i l ih =>
    rw [List.mapM_cons]
    refine .bind (h i (List.mem_cons_self ..)) fun a => ?_
    exact .bind (ih fun j hj => h j (List.mem_cons_of_mem _ hj)) fun as => .pure _

theorem mapM? {ι : Type} {f : ι → Making α} {o : Option ι} (h : ∀ i ∈ o, Keeps (f i)) :
    Keeps (o.mapM f) := by
  cases o with
  | none => exact .pure none
  | some i => exact .bind (h i rfl) fun a => .pure (some a)

end Keeps

/-! ### Parts and drafts -/

/-- A part whose making keeps identifiers named, and so for all parts under it. -/
inductive PartKeeps : Pending → Prop
  | mk {head : ConcreteHead} {making : Making Ref} {parts : List Pending} (keeps : Keeps making)
    (inside : ∀ p ∈ parts, PartKeeps p) : PartKeeps (.mk head making parts)

/-- Parts that all keep identifiers named. -/
abbrev AllKeep (ps : List Pending) : Prop := ∀ p ∈ ps, PartKeeps p

namespace PartKeeps
variable {p q : Pending}

theorem value (h : PartKeeps p) : Keeps p.value := by
  cases h with
  | mk keeps inside => exact keeps

theorem parts (h : PartKeeps p) : AllKeep p.parts := by
  cases h with
  | mk keeps inside => exact inside

end PartKeeps

theorem keeps_converted {o : Option Pending} (h : ∀ p ∈ o, PartKeeps p) :
    Keeps (Draft.converted o) :=
  .mapM? fun p hp => (h p hp).value

namespace AllKeep
variable {ps : List Pending} {d : Draft}

theorem filter (h : AllKeep ps) (keep : Pending → Bool) : AllKeep (ps.filter keep) :=
  fun p hp => h p (List.mem_of_mem_filter hp)

theorem find? (h : AllKeep ps) {keep : Pending → Bool} : ∀ p ∈ ps.find? keep, PartKeeps p :=
  fun p hp => h p (List.mem_of_find?_eq_some hp)

theorem head? (h : AllKeep ps) : ∀ p ∈ ps.head?, PartKeeps p :=
  fun p hp => h p (List.mem_of_mem_head? hp)

theorem values (h : AllKeep ps) : Keeps (ps.mapM Part.value) := .mapM fun p hp => (h p hp).value

theorem field (h : AllKeep d.parts) (name : String) : Keeps (d.field name) :=
  keeps_converted h.find?

theorem firstConstituent (h : AllKeep d.parts) : Keeps d.firstConstituent :=
  keeps_converted (h.filter _).head?

theorem allConstituents (h : AllKeep d.parts) : Keeps d.allConstituents := (h.filter _).values

end AllKeep

section Draft
variable {d : Draft} {o : Option Pending} {kind : String} {fields : Fields Ref}

/-- What is made as anything but an identifier needs no name. -/
theorem keeps_makeAt {span : Span} (other : kind ≠ "Identifier") :
    Keeps (d.makeAt span kind fields) :=
  .makeObject fun identifier => absurd identifier other

theorem keeps_make (other : kind ≠ "Identifier") : Keeps (d.make kind fields) :=
  keeps_makeAt other

theorem keeps_gather (h : AllKeep d.parts) (asks : List (String × Ask Ref))
    {next : Fields Ref → Making Ref} (hnext : ∀ fields, Keeps (next fields)) :
    Keeps (gather d.answers asks next) := by
  -- what is put is at hand; to ask for anything else is a step in front of the rest
  induction asks generalizing next with
  | nil => exact hnext []
  | cons entry asks ih =>
    obtain ⟨name, ask⟩ := entry
    cases ask with
    | put slot => exact ih fun fields => hnext _
    | field field => exact .bind (h.field field) fun r => ih fun fields => hnext _
    | first => exact .bind h.firstConstituent fun r => ih fun fields => hnext _
    | all => exact .bind h.allConstituents fun rs => ih fun fields => hnext _

theorem keeps_holding {asks : List (String × Ask Ref)} (h : AllKeep d.parts)
    (other : kind ≠ "Identifier") : Keeps (d.holding kind asks) :=
  keeps_gather h asks fun _ => keeps_make other

theorem keeps_typeOf {p : Pending} (h : PartKeeps p) : Keeps (d.typeOf p) :=
  .bind h.value fun _ => .ite (keeps_makeAt (by decide)) (.pure _)

theorem keeps_typeOf? (h : ∀ p ∈ o, PartKeeps p) : Keeps (d.typeOf? o) :=
  .mapM? fun p hp => keeps_typeOf (h p hp)

theorem keeps_keyOf (h : ∀ p ∈ o, PartKeeps p) : Keeps (Draft.keyOf o) := by
  cases o with
  | none => exact .pure _
  | some p =>
    have hp := h p rfl
    refine .ite ?_ (.bind hp.value fun _ => .pure _)
    exact .bind (keeps_converted ((hp.parts.filter _).head?)) fun _ => .pure _

end Draft

/-- A rule whose makings keep identifiers named. -/
def RuleKeeps (rule : Rule) : Prop := ∀ d : Draft, AllKeep d.parts → Keeps (rule d)

/-- A rule that only asks for the fields of its object. -/
theorem ruleKeeps_holding {kind : Draft → String} {asks : Draft → List (String × Ask Ref)}
    (other : ∀ d, kind d ≠ "Identifier") : RuleKeeps fun d => d.holding (kind d) (asks d) :=
  fun d h => keeps_holding h (other d)

/-! ### Names and literals -/

theorem keeps_generic {d : Draft} (h : AllKeep d.parts) (other : d.kind ≠ "Identifier") :
    Keeps (generic d) :=
  keeps_holding h other

/-- An identifier is made with its text as its name. -/
theorem keeps_identifier : RuleKeeps identifier :=
  fun d _ => .makeObject fun _ => ⟨d.text, rfl⟩

theorem keeps_stringLiteral : RuleKeeps stringLiteral :=
  fun _ _ => .bind (.lift _) fun _ => keeps_make (by decide)

theorem keeps_numberLiteral : RuleKeeps numberLiteral := fun _ _ => keeps_make (by decide)

theorem keeps_constant (value : Slot Ref) : RuleKeeps (constant value) :=
  fun _ _ => keeps_make (by decide)

/-! ### Statements -/

theorem keeps_ifStatement : RuleKeeps ifStatement := by
  intro d h
  have branch : ∀ p ∈ elseBranch? d, PartKeeps p := by
    intro p hp
    unfold elseBranch? at hp
    cases hc : d.child? "alternative" with
    | none => simp [hc] at hp
    | some clause =>
      have hclause := h.find? clause hc
      simp only [hc] at hp
      split at hp
      · exact (hclause.parts.filter _).head? p hp
      · exact Option.some.inj hp ▸ hclause
  exact .bind (keeps_converted branch) fun _ => keeps_holding h (by decide)

theorem keeps_loopTarget {d : Draft} (h : AllKeep d.parts) : Keeps (loopTarget d) := by
  unfold loopTarget
  cases hl : d.child? "left" with
  | none => exact .pure none
  | some p =>
    refine .bind (h.find? p hl).value fun left => ?_
    cases loopKeyword? d with
    | none => exact .pure _
    | some word =>
      refine .bind (keeps_makeAt (by decide)) fun declarator => ?_
      exact .bind (keeps_makeAt (by decide)) fun declaration => .pure _

theorem keeps_forInStatement : RuleKeeps forInStatement := by
  intro d h
  refine .bind (keeps_loopTarget h) fun left => keeps_holding h ?_
  split <;> decide

theorem keeps_switchCase : RuleKeeps switchCase := by
  intro d h
  refine .bind (h.field _) fun test => ?_
  exact .bind (h.filter _).values fun consequent => keeps_make (by decide)

theorem keeps_switchStatement : RuleKeeps switchStatement := by
  intro d h
  have cases : AllKeep (switchCases d) := by
    intro p hp
    unfold switchCases at hp
    cases hb : d.child? "body" with
    | none => simp [hb] at hp
    | some body =>
      simp only [hb] at hp
      exact ((h.find? body hb).parts.filter _).filter _ p hp
  refine .bind (.mapM fun p hp => keeps_switchCase (d.inside p) (cases p hp).parts) fun _ => ?_
  exact keeps_holding h (by decide)

theorem keeps_variableDeclaration : RuleKeeps variableDeclaration := by
  intro d h
  refine .bind (.mapM fun p hp => ?_) fun declarations => keeps_make (by decide)
  exact keeps_holding ((h.filter _).filter _ p hp).parts (by decide)

theorem keeps_exportStatement : RuleKeeps exportStatement := by
  intro d h
  refine .bind (h.field _) fun declaration => .ite ?_ ?_
  · cases declaration with
    | some r => exact .bind (.pure _) fun _ => keeps_make (by decide)
    | none => exact .bind (h.field _) fun _ => keeps_make (by decide)
  · cases declaration with
    | some r => exact keeps_make (by decide)
    | none => exact keeps_holding h (by decide)

/-! ### Functions -/

theorem keeps_annotate (pattern : Ref) (o : Option Ref) : Keeps (annotate pattern o) := by
  cases o with
  | none => exact .pure ()
  | some r => exact .setField (by decide)

theorem keeps_mark (d : Draft) (pattern : Ref) : Keeps (mark d pattern) :=
  .ite (.setField (by decide)) (.pure ())

theorem keeps_typedParameter {d : Draft} (h : AllKeep d.parts) : Keeps (typedParameter d) := by
  refine .bind (h.field _) fun pattern => ?_
  cases pattern with
  | none => exact .pure none
  | some pattern =>
    refine .bind (h.field _) fun annotation => .bind (keeps_annotate pattern annotation) fun _ => ?_
    refine .bind (keeps_mark d pattern) fun _ => .bind (h.field _) fun default => ?_
    cases default with
    | none => exact .pure _
    | some default => exact .bind (keeps_make (by decide)) fun _ => .pure _

theorem keeps_parameter {d : Draft} {p : Pending} (h : PartKeeps p) : Keeps (parameter d p) :=
  .ite (keeps_typedParameter (d := d.inside p) h.parts) (.bind h.value fun _ => .pure _)

theorem keeps_parameters {d : Draft} {o : Option Pending} (h : ∀ p ∈ o, PartKeeps p) :
    Keeps (parameters d o) := by
  cases o with
  | none => exact .pure []
  | some p =>
    have hp := h p rfl
    refine .ite ?_ (.bind hp.value fun _ => .pure _)
    exact .bind (.mapM fun q hq => keeps_parameter (hp.parts.filter _ q hq)) fun _ => .pure _

theorem keeps_methodFunction : RuleKeeps methodFunction := by
  intro d h
  exact .bind (keeps_parameters h.find?) fun params => keeps_holding h (by decide)

theorem keeps_function : RuleKeeps function := by
  intro d h
  refine .bind (h.field _) fun id => .bind (keeps_parameters h.find?) fun params => ?_
  refine keeps_holding h ?_
  split <;> decide

/-- One of two parts that keep identifiers named does so. -/
theorem partKeeps_or {o o' : Option Pending} (h : ∀ p ∈ o, PartKeeps p)
    (h' : ∀ p ∈ o', PartKeeps p) : ∀ p ∈ o.or o', PartKeeps p := by
  intro p hp
  rcases Option.or_eq_some_iff.1 hp with hp | ⟨-, hp⟩
  · exact h p hp
  · exact h' p hp

theorem keeps_arrowFunction : RuleKeeps arrowFunction := by
  intro d h
  refine .bind (keeps_parameters (partKeeps_or h.find? h.find?)) fun params => ?_
  exact .bind (h.field _) fun body => .bind (.look _) fun _ => keeps_make (by decide)

/-! ### Classes -/

theorem keeps_methodDefinition : RuleKeeps methodDefinition := by
  intro d h
  refine .bind (keeps_keyOf h.find?) fun (key, computed) => ?_
  exact .bind (keeps_methodFunction d h) fun value => .bind (.look _) fun _ => keeps_make (by decide)

theorem keeps_classProperty : RuleKeeps classProperty := by
  intro d h
  refine .bind (keeps_keyOf (partKeeps_or h.find? h.find?)) fun (key, computed) => ?_
  exact keeps_holding h (by decide)

theorem keeps_classMember {d : Draft} {p : Pending} (h : PartKeeps p) : Keeps (classMember d p) :=
  .ite (keeps_methodDefinition (d.inside p) h.parts) <|
    .ite (keeps_classProperty (d.inside p) h.parts) h.value

theorem keeps_extendsBase {clause : Pending} (h : PartKeeps clause) :
    Keeps (extendsBase clause) := by
  unfold extendsBase
  have arguments := keeps_converted (o := clause.child? "type_arguments") h.parts.find?
  cases hv : clause.child? "value" with
  | none => exact .bind arguments fun _ => .pure _
  | some value =>
    have hvalue := h.parts.find? value hv
    refine .ite ?_ (.bind hvalue.value fun _ => .bind arguments fun _ => .pure _)
    cases hc : value.constituents with
    | nil => exact .throw _
    | cons first rest =>
      have hfirst := hvalue.parts.filter _ first (hc ▸ List.mem_cons_self ..)
      exact .bind hfirst.value fun _ => .bind (keeps_converted hvalue.parts.find?) fun _ => .pure _

theorem keeps_classBase {d : Draft} (h : AllKeep d.parts) : Keeps (classBase d) := by
  unfold classBase
  cases hh : d.constituents.find? (·.kind == "class_heritage") with
  | none => exact .pure _
  | some heritage =>
    have hheritage := ((h.filter _).find? heritage hh).parts
    dsimp only
    cases hc : heritage.constituents.find? (·.kind == "extends_clause") with
    | some clause => exact keeps_extendsBase ((hheritage.filter _).find? clause hc)
    | none =>
      cases hf : heritage.parts.find? (·.head.named) with
      | none => exact .pure _
      | some first =>
        exact .ite (.pure _) (.bind (hheritage.find? first hf).value fun _ => .pure _)

theorem keeps_classBody {d : Draft} (h : AllKeep d.parts) : Keeps (classBody d) := by
  unfold classBody
  cases hb : d.child? "body" with
  | none => exact keeps_make (by decide)
  | some body =>
    have members := (h.find? body hb).parts.filter Part.isConstituent
    exact .bind (.mapM fun p hp => keeps_classMember (members p hp)) fun _ =>
      keeps_makeAt (by decide)

theorem keeps_classDefinition : RuleKeeps classDefinition := by
  intro d h
  refine .bind (keeps_classBase h) fun base => .bind (keeps_classBody h) fun body => ?_
  refine .bind (h.field _) fun id => keeps_make ?_
  split <;> decide

/-! ### Expressions -/

theorem keeps_property {d : Draft} {key value : Option Ref} {computed shorthand method : Bool} :
    Keeps (property d key value computed shorthand method) :=
  keeps_make (by decide)

theorem keeps_pairProperty : RuleKeeps pairProperty := by
  intro d h
  refine .bind (keeps_keyOf h.find?) fun (key, computed) => ?_
  exact .bind (h.field _) fun value => keeps_property

theorem keeps_methodProperty : RuleKeeps methodProperty := by
  intro d h
  refine .bind (keeps_keyOf h.find?) fun (key, computed) => ?_
  exact .bind (keeps_methodFunction d h) fun value => keeps_property

theorem keeps_objectMember {d : Draft} {p : Pending} (h : PartKeeps p) :
    Keeps (objectMember d p) :=
  .ite (keeps_pairProperty (d.inside p) h.parts) <|
    .ite (.bind h.value fun _ => .bind h.value fun _ => keeps_property) <|
      .ite (keeps_methodProperty (d.inside p) h.parts) h.value

theorem keeps_object : RuleKeeps object := by
  intro d h
  refine .bind (.mapM fun p hp => keeps_objectMember (h.filter _ p hp)) fun properties => ?_
  exact keeps_make (by decide)

theorem keeps_arguments {o : Option Pending} (h : ∀ p ∈ o, PartKeeps p) : Keeps (arguments o) := by
  cases o with
  | none => exact .pure []
  | some p => exact ((h p rfl).parts.filter _).values

theorem keeps_call : RuleKeeps call := by
  intro d h
  have ordinary (callee : Option Ref) : Keeps (call.ordinary d callee) :=
    .bind (keeps_arguments h.find?) fun _ => keeps_holding h (by decide)
  refine .bind (h.field _) fun callee => ?_
  cases ha : d.child? "arguments" with
  | none => exact ordinary callee
  | some p =>
    exact .ite (.bind (h.find? p ha).value fun _ => keeps_make (by decide)) (ordinary callee)

theorem keeps_newExpression : RuleKeeps newExpression := by
  intro d h
  refine .bind (h.field _) fun callee => ?_
  exact .bind (keeps_arguments h.find?) fun arguments => keeps_make (by decide)

theorem keeps_binary : RuleKeeps binary := by
  refine ruleKeeps_holding fun d => ?_
  split <;> decide

theorem keeps_parenthesized : RuleKeeps parenthesized := by
  intro d h
  unfold parenthesized
  split
  · next p hp => exact (h.filter _ p (hp ▸ List.mem_singleton_self p)).value
  · exact keeps_holding h (by decide)

theorem keeps_markup : RuleKeeps markup := by
  refine ruleKeeps_holding fun d => ?_
  split <;> decide

/-! ### Types -/

theorem keeps_typeClaim {kind : String} (other : kind ≠ "Identifier") :
    RuleKeeps (typeClaim kind) := by
  intro d h
  refine .bind h.firstConstituent fun expression => ?_
  refine .bind (keeps_typeOf? fun p hp => ?_) fun annotation => keeps_make other
  exact h.filter _ p (List.mem_of_getElem? hp)

theorem keeps_interface : RuleKeeps interface := by
  intro d h
  have declared (body : Ref) : Keeps (d.holding "TSInterfaceDeclaration"
      [("id", .field "name"), ("body", .put (.node body))]) :=
    keeps_holding h (by decide)
  unfold interface
  cases hb : d.child? "body" with
  | none => exact .bind (keeps_make (by decide)) declared
  | some body =>
    refine .bind ((h.find? body hb).parts.filter _).values fun _ => ?_
    exact .bind (keeps_makeAt (by decide)) declared

theorem keeps_typeAlias : RuleKeeps typeAlias := by
  intro d h
  refine .bind (h.field _) fun id => ?_
  exact .bind (keeps_typeOf? h.find?) fun annotation => keeps_make (by decide)

theorem keeps_signature {kind typeField : String} (other : kind ≠ "Identifier") :
    RuleKeeps (signature kind typeField) := by
  intro d h
  exact .bind (keeps_keyOf h.find?) fun (key, computed) => keeps_holding h other

theorem keeps_typeAnnotation : RuleKeeps typeAnnotation := by
  intro d h
  exact .bind (keeps_typeOf? (h.filter _).head?) fun annotation => keeps_make (by decide)

theorem keeps_typeArguments : RuleKeeps typeArguments := by
  intro d h
  refine .bind (.mapM fun p hp => keeps_typeOf (h.filter _ p hp)) fun params => ?_
  exact keeps_make (by decide)

/-! ### Trees -/

theorem keeps_nameRules : ∀ entry ∈ nameRules, RuleKeeps entry.2 := by
  simp [nameRules, keeps_identifier]

theorem keeps_statementRules : ∀ entry ∈ statementRules, RuleKeeps entry.2 := by
  simp [statementRules, ruleKeeps_holding, keeps_ifStatement, keeps_forInStatement,
    keeps_switchStatement, keeps_variableDeclaration, keeps_exportStatement]

theorem keeps_functionRules : ∀ entry ∈ functionRules, RuleKeeps entry.2 := by
  simp [functionRules, keeps_classDefinition, keeps_function, keeps_arrowFunction]

theorem keeps_expressionRules : ∀ entry ∈ expressionRules, RuleKeeps entry.2 := by
  have template : RuleKeeps template := ruleKeeps_holding fun _ => by decide
  have access (field : String) (computed : Bool) : RuleKeeps (access field computed) :=
    ruleKeeps_holding fun _ => by decide
  have assignment : RuleKeeps assignment := ruleKeeps_holding fun _ => by decide
  have unary : RuleKeeps unary := ruleKeeps_holding fun _ => by decide
  have yield : RuleKeeps yieldExpression := ruleKeeps_holding fun _ => by decide
  simp [expressionRules, ruleKeeps_holding, keeps_stringLiteral, keeps_numberLiteral,
    keeps_constant, template, keeps_object, access, keeps_call, keeps_newExpression, assignment,
    keeps_binary, unary, keeps_parenthesized, yield, keeps_markup]

theorem keeps_typeRules : ∀ entry ∈ typeRules, RuleKeeps entry.2 := by
  simp [typeRules, ruleKeeps_holding, keeps_typeClaim, keeps_interface, keeps_typeAlias,
    keeps_signature, keeps_typeAnnotation, keeps_typeArguments]

/-- The rule of every kind of concrete node keeps identifiers named, but for a kind of that name. -/
theorem keeps_ruleFor {d : Draft} (h : AllKeep d.parts) (other : d.kind ≠ "Identifier") :
    Keeps (ruleFor d.kind d) := by
  unfold ruleFor
  cases hr : rules.lookup d.kind with
  | none => exact keeps_generic h other
  | some rule =>
    obtain ⟨front, back, heq, -⟩ := List.lookup_eq_some_iff.1 hr
    have mem : (d.kind, rule) ∈ rules := by simp [heq]
    -- the rules are kept in five tables, one after the other
    simp only [rules, List.mem_append] at mem
    rcases mem with (((hm | hm) | hm) | hm) | hm
    · exact keeps_nameRules _ hm d h
    · exact keeps_statementRules _ hm d h
    · exact keeps_functionRules _ hm d h
    · exact keeps_expressionRules _ hm d h
    · exact keeps_typeRules _ hm d h

theorem partKeeps_assembleAll (source : SourceText) : (tree : Concrete) →
    (∀ t ∈ tree.nodes, t.kind ≠ "Identifier") → PartKeeps (assembleAll source tree)
  | .mk head children, kinds => by
    have inside : AllKeep (children.map (assembleAll source)) := by
      intro p hp
      obtain ⟨t, ht, rfl⟩ := List.mem_map.1 hp
      exact partKeeps_assembleAll source t fun u hu =>
        kinds u (Concrete.mem_nodes_of_mem_children ht hu)
    rw [assembleAll_mk]
    exact .mk (keeps_ruleFor (d := ⟨source, head, _⟩) inside
      (kinds _ (Concrete.mem_nodes_self _))) inside

/-- The identifiers of a converted program have names: their texts in the source. -/
theorem get_name_of_isIdentifier {source : SourceText} {tree : Concrete} {n : Node}
    (converts : Conversion.convert source tree = .ok n)
    (kinds : ∀ t ∈ tree.nodes, t.kind ≠ "Identifier") {s : Site} (hs : s ∈ (Site.root n).walk)
    (identifier : s.kind = "Identifier") : s.get "name" = .text (source.text s.span) := by
  obtain ⟨root, σ, V, run, sound⟩ := sound_assemble converts
  have named := (partKeeps_assembleAll source tree kinds).value [] root σ run (by simp)
  have wf := Site.wellFormed_of_mem_walk (r := .root n) (Conversion.convert_wellFormed converts) s hs
  rw [← map_snd_trace sound (stands_root sound)] at hs
  obtain ⟨p, hp, rfl⟩ := List.mem_map.1 hs
  obtain ⟨kept, stands⟩ := stands_of_mem_trace sound p hp
  have shown := sound.shows _ _ _ <|
    Store.content?_eq_some_iff.2 ⟨_, List.getElem?_eq_getElem kept, rfl, rfl⟩
  rw [stands] at shown
  obtain ⟨t, ht⟩ := named _ (List.getElem_mem kept) (by rw [← identifier, Site.kind, shown]; rfl)
  have present : p.2.node.get "name" = .text t := by
    rw [shown, Node.get, Node.fields_mk, Fields.lookup_mapNodes, ht]
    rfl
  -- the field holds something, so that it holds what the layout says
  have content : contentOf p.2.kind "name" = some .spelling := by rw [identifier]; rfl
  rcases Site.get_of_contentOf wf content with absent | ⟨slot, v, hg, rfl⟩
  · rcases Site.get_eq p.2 "name" with ⟨none, -⟩ | ⟨slot, -, hg⟩
    · rw [present] at none
      cases none
    · rw [present, absent] at hg
      cases hg
  · exact hg

end PropOrder.Assembly
