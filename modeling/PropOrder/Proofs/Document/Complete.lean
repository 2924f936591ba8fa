import PropOrder.Proofs.Document

/-!
# What is not missed in a document

If nothing is found in a converted document, then every list that the ordering rule is about is in
order: the objects that declare props in assignments, classes, objects and shapes
(`propsObject_inOrder`), and the members of the types of the props of components
(`propsType_inOrder`). Both follow from one fact: each list that is checked at some node of the
program is in order (`checksAt_inOrder`).
-/

namespace PropOrder

namespace Document
open Site Inspection
variable {source : SourceText} {tree : Concrete} {d : Document} {policy : Policy}
  {wrappers : List Wrapper}

/-- If nothing is found in a document, each list that is checked at a node of it is in order. -/
theorem checksAt_inOrder (wf : d.program.WellFormed d.source)
    (silent : d.lint policy wrappers = .ok []) : ∃ scopes components,
      Scope.all d.root = .ok scopes ∧ Component.all d.root scopes = .ok components ∧
        ∀ s ∈ d.root.walk, ∀ L,
          ChecksAt ⟨policy, wrappers, d.source, d.root, components⟩ s L →
            checkOrder policy (some d.source) L = .ok [] := by
  obtain ⟨components, hc, -⟩ := succeeds_component_all wf
  have scopes : Scope.all d.root = .ok (Scope.opened d.root.walk) := Scope.all_eq wf
  refine ⟨_, components, scopes, hc, fun s hs L checked => ?_⟩
  have whole : OfWellFormed ⟨policy, wrappers, d.source, d.root, components⟩ d.source := ⟨rfl, wf⟩
  have inspected : d.inspection policy wrappers =
      .ok ⟨policy, wrappers, d.source, d.root, components⟩ := by
    rw [inspection, scopes, ok_bind, Document.root, hc]
    rfl
  rw [lint, inspected, ok_bind] at silent
  exact (checks_run whole).silent silent L ⟨s, hs, checked⟩

/-- Nothing is found in a document if the list of what is found is empty. -/
theorem lint_eq_nil (converted : ofConcrete source tree = .ok d)
    (empty : (do return (← (← ofConcrete source tree).lint policy wrappers).isEmpty).toOption =
      some true) : d.lint policy wrappers = .ok [] := by
  rw [converted, ok_bind] at empty
  cases answer : d.lint policy wrappers with
  | error fault => rw [answer] at empty; cases empty
  | ok found =>
    rw [answer] at empty
    rw [List.isEmpty_iff.1 (Option.some.inj empty)]

/-! ### Objects -/

/-- A node that declares props in a program: an object that `propTypes` is assigned, or set to in a
class or an object, and an object that a shape is made of. -/
inductive DeclaresProps (program : Site) (policy : Policy) (wrappers : List Wrapper) : Site → Prop
  /-- What the right side of an assignment to a member leads to. -/
  | assigned {a m p e o : Site} (ha : a ∈ program.walk) (kind : a.kind = "AssignmentExpression")
    (left : a.get "left" = .node m) (member : m.kind = "MemberExpression")
    (property : m.get "property" = .node p) (named : p.IsNamed "propTypes")
    (right : a.get "right" = .node e) (leads : LeadsTo program wrappers e o) :
    DeclaresProps program policy wrappers o
  /-- What the value of a field of a class leads to. -/
  | field {c k e o : Site} (hc : c ∈ program.walk) (kind : c.kind = "ClassProperty")
    (key : c.get "key" = .node k) (named : k.IsNamed "propTypes")
    (value : c.get "value" = .node e) (leads : LeadsTo program wrappers e o) :
    DeclaresProps program policy wrappers o
  /-- The value of a member of an object. -/
  | member {x p k o : Site} (hx : x ∈ program.walk) (kind : x.kind = "ObjectExpression")
    (mem : p ∈ (x.get "properties").nodeList) (key : p.get "key" = .node k)
    (named : k.IsNamed "propTypes") (value : p.get "value" = .node o) :
    DeclaresProps program policy wrappers o
  /-- The first argument of a call of a member called `shape`, or what it stands for. -/
  | shape {c m p a o : Site} (on : policy.sortShapeProp = true) (hc : c ∈ program.walk)
    (kind : c.kind = "CallExpression") (callee : c.get "callee" = .node m)
    (property : m.get "property" = .node p) (named : p.get "name" = .text (.ofString "shape"))
    (first : (c.get "arguments").nodeList.head? = some a)
    (given : o = a ∨ (a.kind = "Identifier" ∧ StandsFor program a o)) :
    DeclaresProps program policy wrappers o

section Names
variable {s k : Site} {name : String}

theorem propertyName_of_key (key : s.get "key" = .node k) (named : k.IsNamed name) :
    s.propertyName = .ok (.ofString name) := by
  have nameNode : s.nameNode = .node k := by
    rw [Site.nameNode, key]
    rfl
  rw [propertyName, nameNode]
  show (.ok ((k.get "name").text?.getD []) : Except Fault Text) = _
  rw [named.name]
  rfl

theorem propertyName_of_property (wf : s.node.WellFormed source)
    (member : s.kind = "MemberExpression") (property : s.get "property" = .node k)
    (named : k.IsNamed name) : s.propertyName = .ok (.ofString name) := by
  have keyless : s.get "key" = .null := get_of_contentOf_eq_none wf (by rw [member]; rfl)
  have nameNode : s.nameNode = .node k := by
    simp only [Site.nameNode, keyless, member]
    exact property
  rw [propertyName, nameNode]
  show (.ok ((k.get "name").text?.getD []) : Except Fault Text) = _
  rw [named.name]
  rfl

theorem isPropTypesDeclaration_of_propertyName (wf : s.node.WellFormed source)
    (named : s.propertyName = .ok (.ofString "propTypes")) :
    s.isPropTypesDeclaration = .ok true := by
  have answer : ∀ annotated : Bool, (if annotated = true then pure true
      else do return (← s.propertyName) == Text.ofString "propTypes") = .ok true := by
    intro annotated
    rw [named, ok_bind, beq_self_eq_true, ite_self]
    rfl
  simp only [isPropTypesDeclaration]
  split
  · rw [site?_nodeField wf rfl, ok_bind]
    cases s.child? "key" with
    | none => exact answer false
    | some key => exact answer _
  · exact answer false

theorem isAssignmentTarget_of_left (kind : s.kind = "AssignmentExpression")
    (left : s.get "left" = .node k) : k.parent? = some s ∧ k.isAssignmentTarget = true := by
  have parent := parent?_of_mem_children (mem_children_of_get left)
  refine ⟨parent, ?_⟩
  rw [isAssignmentTarget, parent]
  show (s.kind == "AssignmentExpression" && (s.get "left").isSite k) = true
  rw [kind, left]
  exact beq_self_eq_true k.address

theorem isShapeCall_of_property (callee : s.get "callee" = .node k) {p : Site}
    (property : k.get "property" = .node p) (named : p.get "name" = .text (.ofString "shape")) :
    s.isShapeCall = .ok true := by
  have called : (s.get "callee").site? = .ok (some k) := by rw [callee]; rfl
  have accessed : (k.get "property").site? = .ok (some p) := by rw [property]; rfl
  simp only [isShapeCall, called, accessed, ok_bind, named]
  exact congrArg Except.ok (beq_self_eq_true (Text.ofString "shape"))

end Names

/-- **If nothing is found in a converted document, every object that declares props in it is in
order.** -/
theorem propsObject_inOrder (converted : ofConcrete source tree = .ok d)
    (silent : d.lint policy wrappers = .ok []) {o : Site}
    (declares : DeclaresProps d.root policy wrappers o) (object : o.kind = "ObjectExpression") :
    checkOrder policy (some source) (o.get "properties") = .ok [] := by
  obtain ⟨rfl, hn⟩ := ofConcrete_eq_ok converted
  have wf := Conversion.convert_wellFormed hn
  obtain ⟨scopes, components, -, -, sorted⟩ := checksAt_inOrder wf silent
  have wfs : ∀ s ∈ d.root.walk, s.node.WellFormed d.source := wellFormed_of_mem_walk wf
  cases declares with
  | @assigned a m p e o ha kind left member property named right leads =>
    have hm := mem_walk_of_get ha left
    have declares := isPropTypesDeclaration_of_propertyName (wfs m hm)
      (propertyName_of_property (wfs m hm) member property named)
    obtain ⟨parent, target⟩ := isAssignmentTarget_of_left kind left
    exact sorted m hm _ (.inr (.inr (.inl ⟨member, declares, target, a, parent, e, o, right,
      leads, rfl⟩)))
  | @field c k e o hc kind key named value leads =>
    have declares := isPropTypesDeclaration_of_propertyName (wfs c hc)
      (propertyName_of_key key named)
    exact sorted c hc _ (.inr (.inl ⟨kind, declares, e, o, value, leads, rfl⟩))
  | @member x p k o hx kind mem key named value =>
    have hp := mem_walk_of_mem_children hx (mem_of_get_nodeList mem)
    have declares := isPropTypesDeclaration_of_propertyName (wfs p hp)
      (propertyName_of_key key named)
    have given : (p.get "key").isNull = false := by rw [key]; rfl
    exact sorted x hx _ (.inr (.inr (.inr (.inl ⟨kind, p, mem, given, declares, o, value, object,
      rfl⟩))))
  | @shape c m p a o on hc kind callee property named first given =>
    have shape := isShapeCall_of_property callee property named
    have ha := mem_walk_of_mem_children hc (mem_of_get_nodeList (List.mem_of_mem_head? first))
    by_cases missing : (o.get "properties").isNull = true
    · rw [Slot.eq_null_of_isNull missing]
      rfl
    refine sorted c hc _ (.inl ⟨kind, on, shape, a, first, ?_⟩)
    unfold ArgumentProperties
    rcases given with rfl | ⟨identifier, bound⟩
    · rw [if_neg missing]
    · have plain : a.get "properties" = .null :=
        get_of_contentOf_eq_none (wfs a ha) (by rw [identifier]; rfl)
      rw [if_pos (by rw [plain]; rfl)]
      exact ⟨identifier, o, bound, rfl⟩

/-- The source `var p={a:1};X.propTypes=exact(p)`. -/
def exactSource : SourceText := ⟨#[
  118, 97, 114, 32, 112, 61, 123, 97, 58, 49, 125, 59, 88, 46, 112, 114, 111, 112, 84, 121, 112,
  101, 115, 61, 101, 120, 97, 99, 116, 40, 112, 41]⟩

/-- The concrete tree of `exactSource`. -/
def exactTree : Concrete :=
  .mk ⟨true, "program", "", ⟨0, 32⟩⟩ [
    .mk ⟨true, "variable_declaration", "", ⟨0, 12⟩⟩ [
      .mk ⟨false, "var", "", ⟨0, 3⟩⟩ [],
      .mk ⟨true, "variable_declarator", "", ⟨4, 11⟩⟩ [
        .mk ⟨true, "identifier", "name", ⟨4, 5⟩⟩ [],
        .mk ⟨true, "object", "value", ⟨6, 11⟩⟩ [
          .mk ⟨true, "pair", "", ⟨7, 10⟩⟩ [
            .mk ⟨true, "property_identifier", "key", ⟨7, 8⟩⟩ [],
            .mk ⟨true, "number", "value", ⟨9, 10⟩⟩ []]]]],
    .mk ⟨true, "expression_statement", "", ⟨12, 32⟩⟩ [
      .mk ⟨true, "assignment_expression", "", ⟨12, 32⟩⟩ [
        .mk ⟨true, "member_expression", "left", ⟨12, 23⟩⟩ [
          .mk ⟨true, "identifier", "object", ⟨12, 13⟩⟩ [],
          .mk ⟨true, "property_identifier", "property", ⟨14, 23⟩⟩ []],
        .mk ⟨true, "call_expression", "right", ⟨24, 32⟩⟩ [
          .mk ⟨true, "identifier", "function", ⟨24, 29⟩⟩ [],
          .mk ⟨true, "arguments", "arguments", ⟨29, 32⟩⟩ [
            .mk ⟨true, "identifier", "", ⟨30, 31⟩⟩ []]]]]]

theorem exactTree_declares : ∃ d o, ofConcrete exactSource exactTree = .ok d ∧
    DeclaresProps d.root .standard Wrapper.standard o ∧ o.kind = "ObjectExpression" := by
  have converted : ofConcrete exactSource exactTree = .ok _ := rfl
  have inBody : ∀ {c r : Site}, c ∈ (r.get "body").nodeList → c ∈ r.walk := fun mem =>
    mem_walk_of_mem_children (mem_walk_self _) (mem_of_get_nodeList mem)
  exact ⟨_, _, converted, .assigned (mem_walk_of_get (inBody (.tail _ (.head _)))
    (show Site.get _ "expression" = .node _ from rfl)) rfl rfl rfl rfl ⟨rfl, rfl⟩ rfl
    (.wrapper rfl ⟨rfl, ⟨_, rfl, rfl⟩, rfl⟩ (.name rfl rfl rfl)), rfl⟩

theorem exactTree_inOrder : ∃ d o, ofConcrete exactSource exactTree = .ok d ∧
    d.lint .standard Wrapper.standard = .ok [] ∧
    DeclaresProps d.root .standard Wrapper.standard o ∧ o.kind = "ObjectExpression" ∧
    checkOrder .standard (some exactSource) (o.get "properties") = .ok [] := by
  obtain ⟨d, o, converted, declares, object⟩ := exactTree_declares
  have silent : d.lint .standard Wrapper.standard = .ok [] :=
    lint_eq_nil converted (by decide +kernel)
  exact ⟨d, o, converted, silent, declares, object,
    propsObject_inOrder converted silent declares object⟩

/-! ### Types of props -/

/-- The type of a parameter of a function, or the first type argument of the base class of a
class. -/
inductive PropsType (component : Site) : Site → Prop
  /-- The annotated type of a parameter, which may have a default. -/
  | parameter {p q a t : Site} (function : component.isFunctionLike = true)
    (mem : p ∈ (component.get "params").nodeList) (inside : pattern p = .node q)
    (annotated : q.get "typeAnnotation" = .node a) (type : bareType a = .node t) :
    PropsType component t
  /-- The first type argument of the base class. -/
  | base {a b t : Site} (isClass : component.isClass = true)
    (arguments : component.get "superTypeParameters" = .node a)
    (first : (a.get "params").nodeList.head? = some b) (type : bareType b = .node t) :
    PropsType component t

/-- The members of the interfaces of a name, and of the type literals that the name is an alias of,
where an item of the program is such a declaration or exports it. -/
inductive MembersNamed (program : Site) (name : Text) : Value → Prop
  /-- An interface. -/
  | interface {item declaration id body : Site} (mem : item ∈ (program.get "body").nodeList)
    (place : declaration = item ∨
      (item.isExport = true ∧ item.get "declaration" = .node declaration))
    (kind : declaration.kind = "TSInterfaceDeclaration")
    (named : declaration.get "id" = .node id) (spelled : id.get "name" = .text name)
    (given : declaration.get "body" = .node body) : MembersNamed program name (body.get "body")
  /-- The right side of an alias. -/
  | literal {item declaration id type : Site} (mem : item ∈ (program.get "body").nodeList)
    (place : declaration = item ∨
      (item.isExport = true ∧ item.get "declaration" = .node declaration))
    (kind : declaration.kind = "TSTypeAliasDeclaration")
    (named : declaration.get "id" = .node id) (spelled : id.get "name" = .text name)
    (given : declaration.get "typeAnnotation" = .node type)
    (literal : type.kind = "TSTypeLiteral") :
    MembersNamed program name (type.get "members")

theorem namedMembers_of_membersNamed {program : Site} {name : Text} {L : Value}
    (nonempty : name ≠ []) (h : MembersNamed program name L) :
    NamedMembers program (.text name) L := by
  have given : Value.truthy (.text name) = true := by
    cases name with
    | nil => exact absurd rfl nonempty
    | cons c rest => rfl
  have same : Value.eqv (.text name) (.text name) = true := beq_self_eq_true name
  refine ⟨given, ?_⟩
  cases h with
  | @interface item declaration id body mem place kind named spelled given =>
    refine ⟨item, mem, declaration, ⟨place, by rw [isTypeDeclaration, kind]; rfl⟩,
      ⟨id, named, by rw [spelled]; exact same⟩, ?_⟩
    rw [OwnMembers, if_pos kind]
    exact ⟨body, given, rfl⟩
  | @literal item declaration id type mem place kind named spelled given _ =>
    refine ⟨item, mem, declaration, ⟨place, by rw [isTypeDeclaration, kind]; rfl⟩,
      ⟨id, named, by rw [spelled]; exact same⟩, ?_⟩
    rw [OwnMembers, if_neg (by rw [kind]; decide)]
    exact ⟨type, given, rfl⟩

/-- **If nothing is found in a converted document, the members of the types of props of its
components are in order.** -/
theorem propsType_inOrder (converted : ofConcrete source tree = .ok d)
    (silent : d.lint policy wrappers = .ok []) : ∃ scopes components,
      Scope.all d.root = .ok scopes ∧ Component.all d.root scopes = .ok components ∧
        ∀ c ∈ components, ∀ t, PropsType c.site t →
          (t.kind = "TSTypeLiteral" →
            checkOrder policy (some source) (t.get "members") = .ok []) ∧
          ∀ id name, t.kind = "TSTypeReference" → t.get "typeName" = .node id →
            id.get "name" = .text name → name ≠ [] →
              ∀ L, MembersNamed d.root name L → checkOrder policy (some source) L = .ok [] := by
  obtain ⟨rfl, hn⟩ := ofConcrete_eq_ok converted
  obtain ⟨scopes, components, hscopes, all, sorted⟩ :=
    checksAt_inOrder (Conversion.convert_wellFormed hn) silent
  refine ⟨scopes, components, hscopes, all, fun c hc t props => ?_⟩
  have found := isSome_find?_of_mem hc
  -- the lists of members of a type of props are checked at the component
  have listed : ∀ L, TypeMembers d.root t L → checkOrder policy (some d.source) L = .ok [] := by
    intro L members
    refine sorted c.site (mem_walk_of_mem_all all c hc) L ?_
    cases props with
    | parameter function mem inside annotated type =>
      exact .inr (.inr (.inr (.inr (.inr ⟨function, found, _, mem, _, _, inside, annotated, _,
        type, members⟩))))
    | base isClass arguments first type =>
      exact .inr (.inr (.inr (.inr (.inl ⟨isClass, found, _, arguments, _, first, _, type,
        members⟩))))
  refine ⟨fun literal => listed _ (.literal literal), ?_⟩
  intro id name reference given spelled nonempty L named
  refine listed L (.reference reference given ?_)
  rw [spelled]
  exact namedMembers_of_membersNamed nonempty named

/-- A source `interface P{a;b}class A extends Component<P>{}` with other bytes in the place of both
`P`, of `a` and of `b`. -/
def baseSource (name first second : UInt8) : SourceText := ⟨#[
  105, 110, 116, 101, 114, 102, 97, 99, 101, 32, name, 123, first, 59, second, 125, 99, 108, 97,
  115, 115, 32, 65, 32, 101, 120, 116, 101, 110, 100, 115, 32, 67, 111, 109, 112, 111, 110, 101,
  110, 116, 60, name, 62, 123, 125]⟩

/-- The concrete tree of a `baseSource`, where the interface and the type argument are named by
given spans. -/
def baseTree (declared referred : Span) : Concrete :=
  .mk ⟨true, "program", "", ⟨0, 46⟩⟩ [
    .mk ⟨true, "interface_declaration", "", ⟨0, 16⟩⟩ [
      .mk ⟨true, "type_identifier", "name", declared⟩ [],
      .mk ⟨true, "interface_body", "body", ⟨11, 16⟩⟩ [
        .mk ⟨true, "property_signature", "", ⟨12, 13⟩⟩ [
          .mk ⟨true, "property_identifier", "name", ⟨12, 13⟩⟩ []],
        .mk ⟨true, "property_signature", "", ⟨14, 15⟩⟩ [
          .mk ⟨true, "property_identifier", "name", ⟨14, 15⟩⟩ []]]],
    .mk ⟨true, "class_declaration", "", ⟨16, 46⟩⟩ [
      .mk ⟨true, "type_identifier", "name", ⟨22, 23⟩⟩ [],
      .mk ⟨true, "class_heritage", "", ⟨24, 44⟩⟩ [
        .mk ⟨true, "extends_clause", "", ⟨24, 44⟩⟩ [
          .mk ⟨true, "identifier", "value", ⟨32, 41⟩⟩ [],
          .mk ⟨true, "type_arguments", "type_arguments", ⟨41, 44⟩⟩ [
            .mk ⟨true, "type_identifier", "", referred⟩ []]]],
      .mk ⟨true, "class_body", "body", ⟨44, 46⟩⟩ []]]

/-- A class of a program has a name as its type of props, and a list of members has that name. -/
structure Refers (program s : Site) (name : Text) (L : Value) : Prop where
  walk : s ∈ program.walk
  props : ∃ t id, PropsType s t ∧ t.kind = "TSTypeReference" ∧ t.get "typeName" = .node id ∧
    id.get "name" = .text name
  members : MembersNamed program name L

/-- The addresses of the components of a document. -/
def componentAddresses (d : Document) : Except Fault (List (List (ℕ × ℕ))) := do
  let components ← Component.all d.root (← Scope.all d.root)
  return components.map fun c => c.site.address

/-- The only component of a document that has a single one. -/
theorem exists_component {scopes : List Scope} {components : List Component} {s : Site}
    (opened : Scope.all d.root = .ok scopes)
    (all : Component.all d.root scopes = .ok components) (hs : s ∈ d.root.walk)
    (one : d.componentAddresses.toOption = some [s.address]) :
    ∃ c ∈ components, c.site = s := by
  rw [componentAddresses, opened, ok_bind, all] at one
  obtain ⟨c, rfl, same⟩ := List.map_eq_singleton_iff.1 (Option.some.inj one)
  have hc := mem_walk_of_mem_all all c (List.mem_singleton_self c)
  exact ⟨c, List.mem_singleton_self c, eq_of_address_eq hc hs same⟩

theorem baseTree_refers : ∃ d s L,
    ofConcrete (baseSource 80 97 98) (baseTree ⟨10, 11⟩ ⟨42, 43⟩) = .ok d ∧
      Refers d.root s (.ofString "P") L ∧ s.address = [(0, 1)] := by
  have converted : ofConcrete (baseSource 80 97 98) (baseTree ⟨10, 11⟩ ⟨42, 43⟩) = .ok _ := rfl
  have inBody : ∀ {c r : Site}, c ∈ (r.get "body").nodeList → c ∈ r.walk := fun mem =>
    mem_walk_of_mem_children (mem_walk_self _) (mem_of_get_nodeList mem)
  exact ⟨_, _, _, converted, ⟨inBody (.tail _ (.head _)),
    ⟨_, _, .base rfl rfl rfl rfl, rfl, rfl, rfl⟩,
    .interface (.head _) (.inl rfl) rfl rfl rfl rfl⟩, rfl⟩

theorem baseTree_inOrder : ∃ d s L,
    ofConcrete (baseSource 80 97 98) (baseTree ⟨10, 11⟩ ⟨42, 43⟩) = .ok d ∧
      d.lint .standard [] = .ok [] ∧ Refers d.root s (.ofString "P") L ∧
      checkOrder .standard (some (baseSource 80 97 98)) L = .ok [] := by
  obtain ⟨d, s, L, converted, refers, address⟩ := baseTree_refers
  have silent : d.lint .standard [] = .ok [] := lint_eq_nil converted (by decide +kernel)
  obtain ⟨scopes, components, opened, all, sorted⟩ := propsType_inOrder converted silent
  have one : (ofConcrete (baseSource 80 97 98) (baseTree ⟨10, 11⟩ ⟨42, 43⟩) >>=
      componentAddresses).toOption = some [[(0, 1)]] := by
    decide +kernel
  rw [converted, ok_bind, ← address] at one
  obtain ⟨c, hc, rfl⟩ := exists_component opened all refers.walk one
  obtain ⟨t, id, props, reference, given, spelled⟩ := refers.props
  exact ⟨d, c.site, L, converted, silent, refers, (sorted c hc t props).2 id _ reference given
    spelled (by decide) L refers.members⟩

theorem unnamedTree_refers : ∃ d s L,
    ofConcrete (baseSource 32 98 97) (baseTree ⟨10, 10⟩ ⟨42, 42⟩) = .ok d ∧
      Refers d.root s [] L ∧ s.address = [(0, 1)] ∧
      checkOrder .standard (some (baseSource 32 98 97)) L ≠ .ok [] := by
  have converted : ofConcrete (baseSource 32 98 97) (baseTree ⟨10, 10⟩ ⟨42, 42⟩) = .ok _ := rfl
  have inBody : ∀ {c r : Site}, c ∈ (r.get "body").nodeList → c ∈ r.walk := fun mem =>
    mem_walk_of_mem_children (mem_walk_self _) (mem_of_get_nodeList mem)
  refine ⟨_, _, _, converted, ⟨inBody (.tail _ (.head _)),
    ⟨_, _, .base rfl rfl rfl rfl, rfl, rfl, rfl⟩,
    .interface (.head _) (.inl rfl) rfl rfl rfl rfl⟩, rfl, ?_⟩
  intro sorted
  have one := congrArg (fun m => m.toOption.map List.length) sorted
  exact absurd one (by decide +kernel)

/-- The members of a name without letters are not looked for. -/
theorem unnamedTree_lint : ∃ d scopes components c L,
    ofConcrete (baseSource 32 98 97) (baseTree ⟨10, 10⟩ ⟨42, 42⟩) = .ok d ∧
      d.lint .standard [] = .ok [] ∧ Scope.all d.root = .ok scopes ∧
      Component.all d.root scopes = .ok components ∧ c ∈ components ∧
      Refers d.root c.site [] L ∧
      checkOrder .standard (some (baseSource 32 98 97)) L ≠ .ok [] := by
  obtain ⟨d, s, L, converted, refers, address, unsorted⟩ := unnamedTree_refers
  have silent : d.lint .standard [] = .ok [] := lint_eq_nil converted (by decide +kernel)
  have one : (ofConcrete (baseSource 32 98 97) (baseTree ⟨10, 10⟩ ⟨42, 42⟩) >>=
      componentAddresses).toOption = some [[(0, 1)]] := by
    decide +kernel
  rw [converted, ok_bind, ← address] at one
  obtain ⟨hsource, hn⟩ := ofConcrete_eq_ok converted
  obtain ⟨scopes, components, opened, all, -⟩ :=
    checksAt_inOrder (hsource ▸ Conversion.convert_wellFormed hn) silent
  obtain ⟨c, hc, rfl⟩ := exists_component opened all refers.walk one
  exact ⟨d, scopes, components, c, L, converted, silent, opened, all, hc, refers, unsorted⟩

end Document

end PropOrder
