import PropOrder.Proofs.Assembly.Form
import PropOrder.Proofs.WellFormed.Conversion

/-!
# The rules of makings follow the conversion

One statement for each rule, in the order of the rules, and then for whole trees
(`follows_assemble`). That a rule follows the conversion is where it shows that no object is put
into two places: a rule that did so would hold an object twice.
-/

namespace PropOrder.Assembly

open Conversion (Form)
open Carrier (refs nodes owned)
variable {covered : Span → Prop} {f : Form} {d : Draft}

theorem map_kind_eq {o : Option Conversion.Converted} {o' : Option Pending}
    (h : Option.Rel (PartFollows covered) o o') : o'.map (·.kind) = o.map (·.kind) := by
  cases h with
  | none => rfl
  | some hp => exact congrArg some hp.kind

/-! ### Rules of one shape -/

theorem ruleFollows_holding {rule : Conversion.Rule} {kind : String}
    {asks : List (String × Ask Ref)} {views : List (String × Ask Node)}
    (stand : AsksStand asks views 0)
    (same : ∀ f, rule f = gather (answers f) views fun fields => pure (f.node kind fields)) :
    RuleFollows rule fun d => d.holding kind asks :=
  fun _ f _ h => h.holding stand (same f) le_rfl

theorem follows_generic : RuleFollows Conversion.generic generic := by
  intro covered f d h
  rw [generic, h.kind]
  exact h.holding (.all .nil) rfl le_rfl

/-! ### Names and literals -/

theorem follows_identifier : RuleFollows Conversion.identifier identifier := by
  intro covered f d h
  rw [identifier, h.text]
  exact h.make (.cons (.scalar _) .nil) le_rfl

theorem follows_stringLiteral : RuleFollows Conversion.stringLiteral stringLiteral := by
  intro covered f d h
  rw [stringLiteral, h.text]
  refine .bind (.lift _) fun value => ?_
  exact h.make (.cons (.scalar _) (.cons (.scalar _)
    .nil)) (Multiset.zero_le _)

theorem follows_numberLiteral : RuleFollows Conversion.numberLiteral numberLiteral := by
  intro covered f d h
  rw [numberLiteral, h.text]
  exact h.make (.cons (.scalar _) (.cons (.scalar _)
    .nil)) le_rfl

theorem follows_constant {view : Slot Node} {slot : Slot Ref} (stands : SlotStands slot view 0) :
    RuleFollows (Conversion.constant view) (constant slot) := by
  intro covered f d h
  rw [constant, h.kind]
  exact h.make (.cons stands (.cons (.scalar _) .nil)) le_rfl

theorem follows_template : RuleFollows Conversion.template template := by
  intro covered f d h
  rw [template, h.text]
  exact h.holding (.put (.scalar _) (.all .nil)) rfl le_rfl

/-! ### Statements -/

theorem rel_elseBranch? (h : FormFollows covered f d) :
    Option.Rel (PartFollows covered) (Conversion.elseBranch? f) (elseBranch? d) := by
  unfold Conversion.elseBranch? elseBranch?
  have clauses := h.child? "alternative"
  generalize f.child? "alternative" = o, d.child? "alternative" = o' at clauses ⊢
  cases clauses with
  | none => exact .none
  | some hc =>
    simp only [hc.kind]
    split
    · exact rel_head? hc.constituents
    · exact .some hc

theorem follows_ifStatement : RuleFollows Conversion.ifStatement ifStatement := by
  intro covered f d h
  refine .bind (follows_converted (rel_elseBranch? h)) fun alternate => ?_
  exact h.holding (.field (.field (.put (.option alternate) .nil))) rfl le_rfl

theorem loopKeyword?_eq (h : FormFollows covered f d) :
    loopKeyword? d = Conversion.loopKeyword? f := by
  have word := rel_find?_head h.parts fun head =>
    !head.named && ["var", "let", "const"].contains head.kind
  unfold Conversion.loopKeyword? loopKeyword?
  exact map_kind_eq word

theorem follows_loopTarget (h : FormFollows covered f d) :
    Follows covered (Option Held) 0 (Conversion.loopTarget f) (loopTarget d) := by
  unfold Conversion.loopTarget loopTarget
  have left := h.child? "left"
  generalize f.child? "left" = o, d.child? "left" = o' at left ⊢
  cases left with
  | none => exact .pure none le_rfl
  | @some p q hp =>
    refine .bind hp.value fun c => ?_
    rw [loopKeyword?_eq h, hp.spanEq]
    cases Conversion.loopKeyword? f with
    | none => exact .pure (some c) (Multiset.le_add_right _ _)
    | some word =>
      -- the target goes into the declarator, and the declarator into the declaration
      refine h.makeAt_then hp.covers (.cons (.node c) (.cons .null .nil)) (le_of_eq (by abel))
        fun r => ?_
      refine h.makeAt_then hp.covers (.cons (.scalar _) (.cons (.list [(r, _)]) .nil))
        (le_of_eq (zero_add _)) fun r' => ?_
      exact .pure (some (r', _)) le_rfl

theorem follows_forInStatement : RuleFollows Conversion.forInStatement forInStatement := by
  intro covered f d h
  refine .bind (follows_loopTarget h) fun left => ?_
  rw [h.hasToken]
  exact h.holding (.put (.option left) (.field (.field .nil))) rfl le_rfl

theorem follows_switchCase (h : FormFollows covered f d) :
    Follows covered Held 0 (Conversion.switchCase f) (switchCase d) := by
  refine .bind (h.field _) fun test => ?_
  have body := forall₂_filter_head h.parts fun head =>
    head.field == "body" && head.kind != "comment"
  refine .bind (follows_values body) fun consequent => ?_
  exact h.make (.cons (.option test) (.cons (.list consequent)
    .nil)) (le_of_eq (by abel))

theorem forall₂_switchCases (h : FormFollows covered f d) :
    List.Forall₂ (PartFollows covered) (Conversion.switchCases f) (switchCases d) := by
  unfold Conversion.switchCases switchCases
  have body := h.child? "body"
  generalize f.child? "body" = o, d.child? "body" = o' at body ⊢
  cases body with
  | none => exact .nil
  | some hb =>
    exact forall₂_filter_head hb.constituents fun head =>
      head.kind == "switch_case" || head.kind == "switch_default"

theorem follows_switchStatement : RuleFollows Conversion.switchStatement switchStatement := by
  intro covered f d h
  have cases := (forall₂_switchCases h).imp fun p q hp => follows_switchCase (hp.inside h)
  refine .bind (.mapM cases) fun ns => ?_
  exact h.holding (.field (.put (.list ns) .nil)) rfl le_rfl

theorem follows_variableDeclarator (h : FormFollows covered f d) :
    Follows covered Held 0 (Conversion.variableDeclarator f) (variableDeclarator d) :=
  h.holding (.field (.field .nil)) rfl le_rfl

theorem follows_variableDeclaration :
    RuleFollows Conversion.variableDeclaration variableDeclaration := by
  intro covered f d h
  have declarators := (forall₂_filter_head h.constituents (·.kind == "variable_declarator")).imp
    fun p q hp => follows_variableDeclarator (hp.inside h)
  refine .bind (.mapM declarators) fun ns => ?_
  have parts := h.parts
  generalize f.parts = ps, d.parts = qs at parts ⊢
  cases parts with
  | nil => exact h.make (.cons (.scalar _) (.cons (.list ns) .nil)) (le_of_eq (by abel))
  | cons hp _ =>
    rw [declaringWord, hp.kind]
    exact h.make (.cons (.scalar _) (.cons (.list ns) .nil)) (le_of_eq (by abel))

theorem follows_exportStatement : RuleFollows Conversion.exportStatement exportStatement := by
  intro covered f d h
  refine .bind (h.field _) fun declaration => ?_
  rw [h.hasToken]
  split
  · cases declaration with
    | none =>
      refine .bind (h.field _) fun value => ?_
      exact h.make (.cons (.option value) .nil) (le_of_eq (by abel))
    | some c =>
      exact h.make (.cons (.option (some c)) .nil) (le_of_eq (by abel))
  · cases declaration with
    | none => exact h.holding (.put .null (.all .nil)) rfl le_rfl
    | some c => exact h.make (.cons (.node c) .nil) (le_of_eq (by abel))

/-! ### Functions -/

/-- A pattern with an annotation on it, if there is one. -/
def annotated (pattern : Node) : Option Node → Node
  | some annotation => pattern.set "typeAnnotation" (.node annotation)
  | none => pattern

/-- The pattern of a parameter that may be optional. -/
def marked (f : Form) (pattern : Node) : Node :=
  if f.kind == "optional_parameter" then pattern.set "optional" (.bool true) else pattern

section Patterns
variable {α β γ : Type} [Carrier γ α β] {held : Multiset Held} {m : Except Fault β}
  {next : Unit → Making α} {r : Ref} {n : Node}

theorem annotate_then {typed : Option Held} (le : owned (r, n) + owned typed ≤ held)
    (hn : Follows covered γ (owned (r, annotated n (nodes typed))) m (next ())) :
    Follows covered γ held m (annotate r (refs typed) >>= next) := by
  refine .mono ?_ le
  cases typed with
  | none => exact hn.mono le_rfl
  | some c => exact .setField (.node c) hn

theorem mark_then (h : FormFollows covered f d)
    (hn : Follows covered γ (owned (r, marked f n)) m (next ())) :
    Follows covered γ (owned (r, n)) m (mark d r >>= next) := by
  rw [mark, h.kind]
  unfold marked at hn
  by_cases optional : (f.kind == "optional_parameter") = true
  · rw [if_pos optional] at hn ⊢
    exact .setField (.scalar _) hn
  · rw [if_neg optional] at hn ⊢
    exact hn

end Patterns

theorem follows_typedParameter (h : FormFollows covered f d) :
    Follows covered (Option Held) 0 (Conversion.typedParameter f) (typedParameter d) := by
  refine .bind (h.field _) fun pattern => ?_
  cases pattern with
  | none => exact .pure none (Multiset.zero_le _)
  | some c =>
    refine .bind (h.field _) fun annotation => ?_
    have both := add_comm (owned c) (owned annotation)
    refine annotate_then (n := nodes c) (le_of_eq both) (mark_then h ?_)
    let done : Held := (refs c, marked f (annotated (nodes c) (nodes annotation)))
    refine .bind (h.field _) fun default => ?_
    cases default with
    | none => exact .pure (some done) (Multiset.le_add_left _ _)
    | some value =>
      refine h.make_then (.cons (.node done) (.cons (.node value) .nil))
        (le_of_eq (add_comm (owned done) (owned value))) fun r => ?_
      exact .pure (some (r, _)) le_rfl

theorem follows_parameter (h : FormFollows covered f d) {p : Conversion.Converted} {q : Pending}
    (hp : PartFollows covered p q) :
    Follows covered (Option Held) 0 (Conversion.parameter f p) (parameter d q) := by
  unfold Conversion.parameter parameter
  rw [hp.kind]
  split
  · exact follows_typedParameter (hp.inside h)
  · exact .bind hp.value fun c => .pure (some c) (Multiset.le_add_right _ _)

theorem follows_parameters (h : FormFollows covered f d) {o : Option Conversion.Converted}
    {o' : Option Pending} (ho : Option.Rel (PartFollows covered) o o') :
    Follows covered (List Held) 0 (Conversion.parameters f o) (parameters d o') := by
  cases ho with
  | none => exact .pure [] le_rfl
  | some hp =>
    simp only [Conversion.parameters, parameters, hp.kind]
    split
    · refine .bind (.mapM (hp.constituents.imp fun _ _ => follows_parameter h)) fun cs => ?_
      rw [← nodes_filterMap_id, ← refs_filterMap_id]
      refine .pure (cs.filterMap id) ?_
      rw [owned_filterMap_id]
      exact Multiset.le_add_right _ _
    · exact .bind hp.value fun c => .pure [c] le_rfl

theorem follows_methodFunction (h : FormFollows covered f d) :
    Follows covered Held 0 (Conversion.methodFunction f) (methodFunction d) := by
  refine .bind (follows_parameters h (h.child? _)) fun params => ?_
  rw [h.hasToken, h.hasToken]
  exact h.holding (.put .null (.put (.list params) (.field (.put (.scalar _)
    (.put (.scalar _) .nil))))) rfl (le_of_eq (by abel))

theorem follows_function : RuleFollows Conversion.function function := by
  intro covered f d h
  rw [function, h.kind, h.hasToken]
  refine .bind (h.field _) fun id => .bind (follows_parameters h (h.child? _)) fun params => ?_
  exact h.holding (.put (.option id) (.put (.list params) (.field (.put (.scalar _)
    (.put (.scalar _) .nil))))) rfl (le_of_eq (by abel))

theorem follows_arrowFunction : RuleFollows Conversion.arrowFunction arrowFunction := by
  intro covered f d h
  refine .bind (follows_parameters h (rel_or (h.child? _) (h.child? _))) fun params => ?_
  refine .bind (h.field _) fun body => ?_
  rw [h.hasToken]
  refine .look (r := (nodes body).any (·.kind != "BlockStatement")) (fun σ V rest sound => ?_) ?_
  · cases body with
    | none => rfl
    | some c =>
      have seen := sound.kind (r := c.1) (n := c.2) (by simp [owned])
      exact congrArg (· != "BlockStatement") seen
  · exact h.make (.cons .null (.cons (.list params) (.cons (.option body) (.cons (.scalar _)
      (.cons (.scalar _) .nil))))) (le_of_eq (by abel))

/-! ### Classes -/

theorem methodKind_eq (h : FormFollows covered f d) {key : Option Held} {σ : Store}
    {V : Ref → Node} {held : Multiset Held} (sound : Sound covered σ V held)
    (le : owned key ≤ held) :
    methodKind d (refs key) σ = Conversion.methodKind f (nodes key) := by
  unfold methodKind Conversion.methodKind
  rw [h.hasToken, h.hasToken]
  cases key with
  | none => rfl
  | some c =>
    have mem : c ∈ held := Multiset.mem_of_le le (Multiset.mem_singleton_self c)
    have seen := sound.isText_get mem "name" "constructor"
    simp only [refs, nodes, Option.map_some, Option.any_some, seen]

theorem follows_methodDefinition (h : FormFollows covered f d) :
    Follows covered Held 0 (Conversion.methodDefinition f) (methodDefinition d) := by
  refine .bind (follows_keyOf (h.child? _)) fun (key, computed) => ?_
  refine .bind (follows_methodFunction h) fun value => ?_
  rw [owned_pair]
  refine .look (r := Conversion.methodKind f (nodes key)) (fun σ V rest sound => ?_) ?_
  · exact methodKind_eq h sound (Multiset.le_iff_exists_add.2 ⟨owned value + rest, by abel⟩)
  · rw [h.hasToken]
    exact h.make (.cons (.option key) (.cons (.node value) (.cons (.scalar _) (.cons (.scalar _)
      (.cons (.scalar _) .nil))))) (le_of_eq (by abel))

theorem follows_classProperty (h : FormFollows covered f d) :
    Follows covered Held 0 (Conversion.classProperty f) (classProperty d) := by
  refine .bind (follows_keyOf (rel_or (h.child? _) (h.child? _))) fun (key, computed) => ?_
  rw [h.hasToken, owned_pair]
  exact h.holding (.put (.option key) (.field (.field (.put (.scalar _) (.put (.scalar _) .nil)))))
    rfl (le_of_eq (by abel))

theorem follows_classMember (h : FormFollows covered f d) {p : Conversion.Converted} {q : Pending}
    (hp : PartFollows covered p q) :
    Follows covered Held 0 (Conversion.classMember f p) (classMember d q) := by
  unfold Conversion.classMember classMember
  rw [hp.kind]
  split
  · exact follows_methodDefinition (hp.inside h)
  split
  · exact follows_classProperty (hp.inside h)
  · exact hp.value

theorem follows_extendsBase {p : Conversion.Converted} {q : Pending}
    (hp : PartFollows covered p q) : Follows covered (Option Held × Option Held) 0
      (Conversion.extendsBase p) (extendsBase q) := by
  unfold Conversion.extendsBase extendsBase
  have value := hp.child? "value"
  have arguments := follows_converted (hp.child? "type_arguments")
  generalize p.child? "value" = o, q.child? "value" = o' at value ⊢
  have both (c : Held) (c' : Option Held) : owned (some c, c') = owned c' + (owned c + 0) := by
    rw [owned_base, owned_some]
    abel
  cases value with
  | none => exact .bind arguments fun c => .pure (none, c) (le_of_eq (add_comm _ _))
  | @some v w hv =>
    simp only [hv.kind]
    split
    · have constituents := hv.constituents
      have inside := rel_find?_head hv.parts fun head => head.named && head.kind == "type_arguments"
      generalize v.constituents = vs, w.constituents = ws at constituents ⊢
      cases constituents with
      | nil => exact .throw _
      | cons first _ =>
        refine .bind first.value fun c => .bind (follows_converted inside) fun c' => ?_
        exact .pure (some c, c') (le_of_eq (both c c'))
    · refine .bind hv.value fun c => .bind arguments fun c' => ?_
      exact .pure (some c, c') (le_of_eq (both c c'))

theorem follows_classBase (h : FormFollows covered f d) :
    Follows covered (Option Held × Option Held) 0 (Conversion.classBase f) (classBase d) := by
  have nothing : Follows covered (Option Held × Option Held) 0 (pure ⟨none, none⟩)
      (pure (none, none)) := .pure ((none, none) : Option Held × Option Held) le_rfl
  unfold Conversion.classBase classBase
  have heritage := rel_find?_kind h.constituents (· == "class_heritage")
  generalize f.constituents.find? _ = o, d.constituents.find? _ = o' at heritage ⊢
  cases heritage with
  | none => exact nothing
  | @some p q hp =>
    dsimp only
    have clause := rel_find?_kind hp.constituents (· == "extends_clause")
    have first := rel_find?_head hp.parts fun head => head.named
    generalize p.constituents.find? _ = o, q.constituents.find? _ = o' at clause ⊢
    cases clause with
    | some hc => exact follows_extendsBase hc
    | none =>
      dsimp only
      generalize p.parts.find? _ = o, q.parts.find? _ = o' at first ⊢
      cases first with
      | none => exact nothing
      | some hf =>
        simp only [hf.kind]
        split
        · exact nothing
        · exact .bind hf.value fun c =>
            .pure ((some c, none) : Option Held × Option Held) le_rfl

theorem follows_classBody (h : FormFollows covered f d) :
    Follows covered Held 0 (Conversion.classBody f) (classBody d) := by
  unfold Conversion.classBody classBody
  have body := h.child? "body"
  generalize f.child? "body" = o, d.child? "body" = o' at body ⊢
  cases body with
  | none => exact h.make (.cons (.list []) .nil) le_rfl
  | some hb =>
    refine .bind (.mapM (hb.constituents.imp fun _ _ => follows_classMember h)) fun members => ?_
    rw [hb.spanEq]
    exact h.makeAt hb.covers (.cons (.list members) .nil) (le_of_eq (by abel))

theorem follows_classDefinition : RuleFollows Conversion.classDefinition classDefinition := by
  intro covered f d h
  rw [classDefinition, h.kind]
  refine .bind (follows_classBase h) fun (superClass, arguments) => ?_
  refine .bind (follows_classBody h) fun body => .bind (h.field _) fun id => ?_
  rw [owned_base]
  exact h.make (.cons (.option id) (.cons (.option superClass) (.cons (.option arguments)
    (.cons (.node body) .nil)))) (le_of_eq (by abel))

/-! ### Expressions -/

theorem follows_property (h : FormFollows covered f d) (key value : Option Held)
    {held : Multiset Held} (computed shorthand method : Bool)
    (le : owned key + owned value ≤ held) :
    Follows covered Held held
      (pure (Conversion.property f (nodes key) (nodes value) computed shorthand method))
      (property d (refs key) (refs value) computed shorthand method) :=
  h.make (.cons (.option key) (.cons (.option value) (.cons (.scalar _) (.cons (.scalar _)
    (.cons (.scalar _) (.cons (.scalar _) .nil)))))) (le_of_eq_of_le (by abel) le)

theorem follows_pairProperty (h : FormFollows covered f d) :
    Follows covered Held 0 (Conversion.pairProperty f) (pairProperty d) := by
  refine .bind (follows_keyOf (h.child? _)) fun (key, computed) => ?_
  refine .bind (h.field _) fun value => ?_
  rw [owned_pair]
  exact follows_property h key value _ _ _ (le_of_eq (by abel))

theorem follows_methodProperty (h : FormFollows covered f d) :
    Follows covered Held 0 (Conversion.methodProperty f) (methodProperty d) := by
  refine .bind (follows_keyOf (h.child? _)) fun (key, computed) => ?_
  refine .bind (follows_methodFunction h) fun value => ?_
  rw [owned_pair]
  exact follows_property h key (some value) _ _ _ (le_of_eq (by rw [owned_some]; abel))

/-- A conversion that is asked for once may as well be asked for twice. -/
theorem bind_twice {α β : Type} (m : Except Fault α) (k : α → α → Except Fault β) :
    (m >>= fun a => k a a) = m >>= fun a => m >>= fun b => k a b := by
  cases m <;> rfl

theorem follows_objectMember (h : FormFollows covered f d) {p : Conversion.Converted} {q : Pending}
    (hp : PartFollows covered p q) :
    Follows covered Held 0 (Conversion.objectMember f p) (objectMember d q) := by
  unfold Conversion.objectMember objectMember
  rw [hp.kind]
  split
  · exact follows_pairProperty (hp.inside h)
  split
  · -- the name is made twice, and the two objects are told apart
    rw [bind_twice p.value fun key value =>
      pure (Conversion.property (f.inside p) (some key) (some value) false true false)]
    refine .bind hp.value fun key => .bind hp.value fun value => ?_
    exact follows_property (hp.inside h) (some key) (some value) _ _ _
      (le_of_eq (by rw [owned_some, owned_some]; abel))
  split
  · exact follows_methodProperty (hp.inside h)
  · exact hp.value

theorem follows_object : RuleFollows Conversion.object object := by
  intro covered f d h
  refine .bind (.mapM (h.constituents.imp fun _ _ => follows_objectMember h)) fun properties => ?_
  exact h.make (.cons (.list properties) .nil) (le_of_eq (by abel))

theorem follows_member : RuleFollows Conversion.member (access "property" false) := by
  intro covered f d h
  rw [access, h.hasToken]
  exact h.holding (.field (.field (.put (.scalar _) (.put (.scalar _) .nil)))) rfl le_rfl

theorem follows_subscript : RuleFollows Conversion.subscript (access "index" true) := by
  intro covered f d h
  rw [access, h.hasToken]
  exact h.holding (.field (.field (.put (.scalar _) (.put (.scalar _) .nil)))) rfl le_rfl

theorem follows_arguments {o : Option Conversion.Converted} {o' : Option Pending}
    (h : Option.Rel (PartFollows covered) o o') :
    Follows covered (List Held) 0 (Conversion.arguments o) (arguments o') := by
  cases h with
  | none => exact .pure [] le_rfl
  | some hp => exact follows_values hp.constituents

theorem follows_ordinaryCall (h : FormFollows covered f d) (callee : Option Held) :
    Follows covered Held (owned callee) (Conversion.call.ordinary f (nodes callee))
      (call.ordinary d (refs callee)) := by
  refine .bind (follows_arguments (h.child? _)) fun arguments => ?_
  exact h.holding (.put (.option callee) (.put (.list arguments) (.field .nil))) rfl
    (le_of_eq (by abel))

theorem follows_call : RuleFollows Conversion.call call := by
  intro covered f d h
  refine .bind (h.field _) fun callee => ?_
  have ordinary := (follows_ordinaryCall h callee).mono (Multiset.le_add_right _ 0)
  have arguments := h.child? "arguments"
  generalize f.child? "arguments" = o, d.child? "arguments" = o' at arguments ⊢
  cases arguments with
  | none => exact ordinary
  | some hp =>
    simp only [hp.kind]
    split
    · refine .bind hp.value fun quasi => ?_
      exact h.make (.cons (.option callee) (.cons (.node quasi) .nil)) (le_of_eq (by abel))
    · exact ordinary

theorem follows_newExpression : RuleFollows Conversion.newExpression newExpression := by
  intro covered f d h
  refine .bind (h.field _) fun callee => .bind (follows_arguments (h.child? _)) fun arguments => ?_
  exact h.make (.cons (.option callee) (.cons (.list arguments) .nil)) (le_of_eq (by abel))

theorem operatorOr_eq (h : FormFollows covered f d) (missing : String) :
    operatorOr d missing = Conversion.operatorOr f missing := by
  unfold operatorOr Conversion.operatorOr
  have operator := h.child? "operator"
  generalize f.child? "operator" = o, d.child? "operator" = o' at operator ⊢
  cases operator with
  | none => rfl
  | some hp => exact hp.kind

theorem follows_assignment : RuleFollows Conversion.assignment assignment := by
  intro covered f d h
  rw [assignment, operatorOr_eq h]
  exact h.holding (.put (.scalar _) (.field (.field .nil))) rfl le_rfl

theorem follows_binary : RuleFollows Conversion.binary binary := by
  intro covered f d h
  rw [binary, operatorOr_eq h]
  exact h.holding (.put (.scalar _) (.field (.field .nil))) rfl le_rfl

theorem follows_unary : RuleFollows Conversion.unary unary := by
  intro covered f d h
  rw [unary, operatorOr_eq h]
  exact h.holding (.put (.scalar _) (.field .nil)) rfl le_rfl

theorem follows_parenthesized : RuleFollows Conversion.parenthesized parenthesized := by
  intro covered f d h
  unfold Conversion.parenthesized parenthesized
  have constituents := h.constituents
  generalize f.constituents = ps, d.constituents = qs at constituents ⊢
  rcases constituents with _ | ⟨hp, _ | ⟨_, _⟩⟩
  · exact h.holding (.all .nil) rfl le_rfl
  · exact hp.value
  · exact h.holding (.all .nil) rfl le_rfl

theorem follows_yieldExpression : RuleFollows Conversion.yieldExpression yieldExpression := by
  intro covered f d h
  rw [yieldExpression, h.hasToken]
  exact h.holding (.first (.put (.scalar _) .nil)) rfl le_rfl

theorem follows_markup : RuleFollows Conversion.markup markup := by
  intro covered f d h
  have nameless : ((d.child? "open_tag").any fun tag => (tag.child? "name").isNone) =
      (f.child? "open_tag").any fun tag => (tag.child? "name").isNone := by
    have tag := h.child? "open_tag"
    generalize f.child? "open_tag" = o, d.child? "open_tag" = o' at tag ⊢
    cases tag with
    | none => rfl
    | some hp => simp only [Option.any_some, ← Option.not_isSome, isSome_eq (hp.child? "name")]
  rw [markup, h.kind, nameless]
  exact h.holding (.all .nil) rfl le_rfl

/-! ### Types -/

theorem follows_typeClaim (kind : String) :
    RuleFollows (Conversion.typeClaim kind) (typeClaim kind) := by
  intro covered f d h
  refine .bind h.firstConstituent fun expression => ?_
  refine .bind (h.typeOf? (rel_getElem? h.constituents 1)) fun annotation => ?_
  exact h.make (.cons (.option expression) (.cons (.option annotation) .nil)) (le_of_eq (by abel))

theorem follows_interface : RuleFollows Conversion.interface interface := by
  intro covered f d h
  have named (c : Held) : Follows covered Held (owned c) (do
      let id ← f.field "name"
      return f.node "TSInterfaceDeclaration" [("id", .ofOption id), ("body", .node (nodes c))])
      (d.holding "TSInterfaceDeclaration"
        [("id", .field "name"), ("body", .put (.node (refs c)))]) :=
    h.holding (.field (.put (.node c) .nil)) rfl (le_of_eq (by abel))
  unfold Conversion.interface interface
  have body := h.child? "body"
  generalize f.child? "body" = o, d.child? "body" = o' at body ⊢
  cases body with
  | none => exact h.make_then (.cons (.list []) .nil) le_rfl fun r => named (r, _)
  | some hb =>
    refine .bind (follows_values hb.constituents) fun members => ?_
    rw [hb.spanEq]
    exact h.makeAt_then hb.covers (.cons (.list members) .nil) (le_of_eq (by abel))
      fun r => named (r, _)

theorem follows_typeAlias : RuleFollows Conversion.typeAlias typeAlias := by
  intro covered f d h
  refine .bind (h.field _) fun id => .bind (h.typeOf? (h.child? _)) fun annotation => ?_
  exact h.make (.cons (.option id) (.cons (.option annotation) .nil)) (le_of_eq (by abel))

theorem follows_signature (kind typeField : String) :
    RuleFollows (Conversion.signature kind typeField) (signature kind typeField) := by
  intro covered f d h
  refine .bind (follows_keyOf (h.child? _)) fun (key, computed) => ?_
  rw [h.hasToken, owned_pair]
  exact h.holding (.put (.option key) (.put (.scalar _) (.put (.scalar _) (.field .nil)))) rfl
    (le_of_eq (by abel))

theorem follows_typeAnnotation : RuleFollows Conversion.typeAnnotation typeAnnotation := by
  intro covered f d h
  refine .bind (h.typeOf? (rel_head? h.constituents)) fun annotation => ?_
  exact h.make (.cons (.option annotation) .nil) (le_of_eq (by abel))

theorem follows_typeArguments : RuleFollows Conversion.typeArguments typeArguments := by
  intro covered f d h
  refine .bind (.mapM (h.constituents.imp fun _ _ => h.typeOf)) fun params => ?_
  exact h.make (.cons (.list params) .nil) (le_of_eq (by abel))

/-! ### Trees -/

/-- Rules of the same kinds of concrete nodes, the ones following the others. -/
abbrev TableFollows : List (String × Conversion.Rule) → List (String × Rule) → Prop :=
  List.Forall₂ fun entry made => made.1 = entry.1 ∧ RuleFollows entry.2 made.2

theorem follows_nameRules : TableFollows Conversion.nameRules nameRules := by
  simp [TableFollows, Conversion.nameRules, nameRules, follows_identifier]

theorem follows_functionRules : TableFollows Conversion.functionRules functionRules := by
  simp [TableFollows, Conversion.functionRules, functionRules, follows_classDefinition,
    follows_function, follows_arrowFunction]

theorem follows_statementRules : TableFollows Conversion.statementRules statementRules :=
  .cons ⟨rfl, ruleFollows_holding (.all (.put (.scalar _) .nil)) fun _ => rfl⟩ <|
  .cons ⟨rfl, ruleFollows_holding (.first .nil) fun _ => rfl⟩ <|
  .cons ⟨rfl, ruleFollows_holding (.all .nil) fun _ => rfl⟩ <|
  .cons ⟨rfl, ruleFollows_holding (.first .nil) fun _ => rfl⟩ <|
  .cons ⟨rfl, follows_ifStatement⟩ <|
  .cons ⟨rfl, ruleFollows_holding (.field (.field .nil)) fun _ => rfl⟩ <|
  .cons ⟨rfl, ruleFollows_holding (.field (.field .nil)) fun _ => rfl⟩ <|
  .cons ⟨rfl, ruleFollows_holding (.field (.field (.field (.field .nil)))) fun _ => rfl⟩ <|
  .cons ⟨rfl, follows_forInStatement⟩ <|
  .cons ⟨rfl, follows_switchStatement⟩ <|
  .cons ⟨rfl, ruleFollows_holding (.field (.field .nil)) fun _ => rfl⟩ <|
  .cons ⟨rfl, follows_variableDeclaration⟩ <|
  .cons ⟨rfl, follows_variableDeclaration⟩ <|
  .cons ⟨rfl, follows_exportStatement⟩ .nil

theorem follows_expressionRules : TableFollows Conversion.expressionRules expressionRules :=
  .cons ⟨rfl, follows_stringLiteral⟩ <|
  .cons ⟨rfl, follows_numberLiteral⟩ <|
  .cons ⟨rfl, follows_constant (.scalar _)⟩ <|
  .cons ⟨rfl, follows_constant (.scalar _)⟩ <|
  .cons ⟨rfl, follows_constant .null⟩ <|
  .cons ⟨rfl, ruleFollows_holding .nil fun _ => rfl⟩ <|
  .cons ⟨rfl, follows_template⟩ <|
  .cons ⟨rfl, follows_object⟩ <|
  .cons ⟨rfl, ruleFollows_holding (.all .nil) fun _ => rfl⟩ <|
  .cons ⟨rfl, ruleFollows_holding (.field (.field .nil)) fun _ => rfl⟩ <|
  .cons ⟨rfl, ruleFollows_holding (.first .nil) fun _ => rfl⟩ <|
  .cons ⟨rfl, ruleFollows_holding (.first .nil) fun _ => rfl⟩ <|
  .cons ⟨rfl, ruleFollows_holding (.all .nil) fun _ => rfl⟩ <|
  .cons ⟨rfl, follows_member⟩ <|
  .cons ⟨rfl, follows_subscript⟩ <|
  .cons ⟨rfl, follows_call⟩ <|
  .cons ⟨rfl, follows_newExpression⟩ <|
  .cons ⟨rfl, follows_assignment⟩ <|
  .cons ⟨rfl, follows_assignment⟩ <|
  .cons ⟨rfl, ruleFollows_holding (.field (.field (.field .nil))) fun _ => rfl⟩ <|
  .cons ⟨rfl, follows_binary⟩ <|
  .cons ⟨rfl, follows_unary⟩ <|
  .cons ⟨rfl, follows_parenthesized⟩ <|
  .cons ⟨rfl, follows_yieldExpression⟩ <|
  .cons ⟨rfl, ruleFollows_holding (.first .nil) fun _ => rfl⟩ <|
  .cons ⟨rfl, follows_markup⟩ <|
  .cons ⟨rfl, follows_markup⟩ <|
  .cons ⟨rfl, follows_markup⟩ .nil

theorem follows_typeRules : TableFollows Conversion.typeRules typeRules :=
  .cons ⟨rfl, follows_typeClaim _⟩ <|
  .cons ⟨rfl, follows_typeClaim _⟩ <|
  .cons ⟨rfl, ruleFollows_holding (.first .nil) fun _ => rfl⟩ <|
  .cons ⟨rfl, follows_interface⟩ <|
  .cons ⟨rfl, follows_typeAlias⟩ <|
  .cons ⟨rfl, ruleFollows_holding (.all .nil) fun _ => rfl⟩ <|
  .cons ⟨rfl, follows_signature _ _⟩ <|
  .cons ⟨rfl, follows_signature _ _⟩ <|
  .cons ⟨rfl, follows_typeAnnotation⟩ <|
  .cons ⟨rfl, ruleFollows_holding (.field (.field .nil)) fun _ => rfl⟩ <|
  .cons ⟨rfl, ruleFollows_holding (.field (.field .nil)) fun _ => rfl⟩ <|
  .cons ⟨rfl, follows_typeArguments⟩ .nil

theorem follows_rules : TableFollows Conversion.rules rules :=
  List.rel_append (List.rel_append (List.rel_append (List.rel_append follows_nameRules
    follows_statementRules) follows_functionRules) follows_expressionRules) follows_typeRules

/-- The rule for every kind of concrete node follows the conversion. -/
theorem follows_ruleFor (kind : String) :
    RuleFollows (Conversion.ruleFor kind) (ruleFor kind) := by
  unfold Conversion.ruleFor ruleFor
  have tables := follows_rules
  generalize Conversion.rules = entries, rules = mades at tables
  induction tables with
  | nil => exact follows_generic
  | @cons entry made entries mades first _ ih =>
    obtain ⟨name, rule⟩ := entry
    obtain ⟨name', making⟩ := made
    obtain ⟨rfl, follows⟩ := first
    simp only [List.lookup_cons]
    split
    · exact follows
    · exact ih

/-- Every part of a tree is made as it is converted. -/
theorem partFollows_assembleAll (source : SourceText) : (tree : Concrete) →
    (∀ t ∈ tree.nodes, covered t.span) →
      PartFollows covered (Conversion.convertAll source tree) (assembleAll source tree)
  | .mk head children, spans => by
    have inside : List.Forall₂ (PartFollows covered)
        (children.map (Conversion.convertAll source)) (children.map (assembleAll source)) := by
      rw [List.forall₂_map_left_iff, List.forall₂_map_right_iff, List.forall₂_same]
      intro t ht
      exact partFollows_assembleAll source t fun u hu =>
        spans u (Concrete.mem_nodes_of_mem_children ht hu)
    have span : covered head.span := spans _ (Concrete.mem_nodes_self _)
    rw [Conversion.convertAll_mk, assembleAll_mk]
    exact .mk (follows_ruleFor head.kind covered _ _ ⟨rfl, rfl, span, inside⟩) span inside

/-- A span that a node of a concrete tree covers. -/
def CoveredBy (tree : Concrete) (span : Span) : Prop := ∃ t ∈ tree.nodes, t.span = span

/-- Making the objects of a tree from nothing follows the conversion of the tree. A making leaves a
sound store behind, with the root in its hands and nothing else, and every object in the store
covers what a concrete node covers. -/
theorem sound_assemble {source : SourceText} {tree : Concrete} {n : Node}
    (converts : Conversion.convert source tree = .ok n) :
    ∃ root σ V, (assemble source tree).run [] = .ok (root, σ) ∧
      Sound (CoveredBy tree) σ V {(root, n)} := by
  have part : PartFollows (CoveredBy tree) _ _ :=
    partFollows_assembleAll source tree fun t ht => ⟨t, ht, rfl⟩
  rcases part.value [] default 0 (.nil _ _) with ⟨c, σ, V, hm, hp, sound⟩ | ⟨fault, hm, -⟩
  · obtain rfl : n = nodes c := Except.ok.inj (converts.symm.trans hm)
    exact ⟨refs c, σ, V, hp, sound.mono (Multiset.le_add_right _ _)⟩
  · cases converts.symm.trans hm

end PropOrder.Assembly
