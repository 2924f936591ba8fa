import Mathlib.Data.List.Basic
import PropOrder.Conversion.Form
import PropOrder.Proofs.Outcome
import PropOrder.Proofs.Tree
import PropOrder.Reading

/-!
# Well-formed nodes

What the fields of a node hold depends on the kind of the node. `layouts` lists the kinds with
their fields and the content of each field, and a node is well formed if its fields and those of
all nodes under it hold what the layouts say. A kind that is not in the list has only the fields
that every node may have. The location of each of these nodes is that of its span.

On a well-formed program a field is read without a fault as what it is: as a node that may be
missing (`get_node`), as a list of nodes (`get_nodes`), and a name as a text (`get_name`).
-/

namespace PropOrder

/-- What a field may hold. -/
inductive Content where
  /-- A node, of the given kind if there is one, or nothing. -/
  | node (kind : Option String)
  /-- A list of nodes, all of the given kind if there is one. -/
  | nodes (kind : Option String)
  /-- A value that is no node, or nothing. -/
  | scalar
  /-- A text. -/
  | text
  /-- The text of the node in the source. -/
  | spelling
  /-- A truth value. -/
  | flag
  deriving DecidableEq

namespace Content

/-- A node of any kind. -/
abbrev child : Content := node none

/-- A list of nodes of any kind. -/
abbrev list : Content := nodes none

/-- Whether a content is one node or none. -/
def isNode : Content → Bool
  | node _ => true
  | _ => false

/-- Whether a content is a list. -/
def isList : Content → Bool
  | nodes _ => true
  | _ => false

/-- Whether a slot of a node with the given text in the source has a content. -/
def Allows (spelled : Text) : Content → Slot Node → Prop
  | node kind, slot => slot = .null ∨ ∃ n, slot = .node n ∧ ∀ k ∈ kind, n.kind = k
  | nodes kind, slot => ∃ ns : List Node, slot = .nodes ns ∧ ∀ n ∈ ns, ∀ k ∈ kind, n.kind = k
  | scalar, slot => slot = .null ∨ ∃ v, slot = .one (.scalar v)
  | text, slot => ∃ t, slot = .text t
  | spelling, slot => slot = .text spelled
  | flag, slot => ∃ b, slot = .bool b

end Content

open Content in
/-- The fields of each kind of node. -/
def layouts : List (String × List (String × Content)) := [
  ("Identifier", [("name", spelling)]),
  ("Literal", [("value", scalar), ("raw", text)]),
  ("TemplateLiteral", [("raw", text)]),
  ("Program", [("body", list), ("sourceType", text)]),
  ("ExpressionStatement", [("expression", child)]),
  ("BlockStatement", [("body", list)]),
  ("ReturnStatement", [("argument", child)]),
  ("IfStatement", [("test", child), ("consequent", child), ("alternate", child)]),
  ("WhileStatement", [("test", child), ("body", child)]),
  ("DoWhileStatement", [("body", child), ("test", child)]),
  ("ForStatement", [("init", child), ("test", child), ("update", child), ("body", child)]),
  ("ForInStatement", [("left", child), ("right", child), ("body", child)]),
  ("ForOfStatement", [("left", child), ("right", child), ("body", child)]),
  ("SwitchStatement", [("discriminant", child), ("cases", nodes (some "SwitchCase"))]),
  ("SwitchCase", [("test", child), ("consequent", list)]),
  ("CatchClause", [("param", child), ("body", child)]),
  ("VariableDeclarator", [("id", child), ("init", child)]),
  ("VariableDeclaration",
    [("kind", text), ("declarations", nodes (some "VariableDeclarator"))]),
  ("ExportDefaultDeclaration", [("declaration", child)]),
  ("ExportNamedDeclaration", [("declaration", child)]),
  ("FunctionDeclaration",
    [("id", child), ("params", list), ("body", child), ("generator", flag), ("async_", flag)]),
  ("FunctionExpression",
    [("id", child), ("params", list), ("body", child), ("generator", flag), ("async_", flag)]),
  ("ArrowFunctionExpression",
    [("id", child), ("params", list), ("body", child), ("expression", flag), ("async_", flag)]),
  ("MethodDefinition",
    [("key", child), ("value", node (some "FunctionExpression")), ("kind", text),
      ("computed", flag), ("static", flag)]),
  ("ClassProperty", [("key", child), ("value", child), ("computed", flag), ("static", flag)]),
  ("ClassBody", [("body", list)]),
  ("ClassExpression",
    [("id", child), ("superClass", child), ("superTypeParameters", child),
      ("body", node (some "ClassBody"))]),
  ("ClassDeclaration",
    [("id", child), ("superClass", child), ("superTypeParameters", child),
      ("body", node (some "ClassBody"))]),
  ("Property",
    [("key", child), ("value", child), ("computed", flag), ("shorthand", flag), ("method", flag),
      ("kind", text)]),
  ("ObjectExpression", [("properties", list)]),
  ("ObjectPattern", [("properties", list)]),
  ("AssignmentPattern", [("left", child), ("right", child)]),
  ("RestElement", [("argument", child)]),
  ("SpreadElement", [("argument", child)]),
  ("ArrayExpression", [("elements", list)]),
  ("MemberExpression", [("object", child), ("property", child), ("computed", flag)]),
  ("CallExpression", [("callee", child), ("arguments", list), ("typeParameters", child)]),
  ("TaggedTemplateExpression", [("tag", child), ("quasi", child)]),
  ("NewExpression", [("callee", child), ("arguments", list)]),
  ("AssignmentExpression", [("operator", text), ("left", child), ("right", child)]),
  ("ConditionalExpression", [("test", child), ("consequent", child), ("alternate", child)]),
  ("LogicalExpression", [("operator", text), ("left", child), ("right", child)]),
  ("BinaryExpression", [("operator", text), ("left", child), ("right", child)]),
  ("UnaryExpression", [("operator", text), ("argument", child)]),
  ("SequenceExpression", [("expressions", list)]),
  ("YieldExpression", [("argument", child), ("delegate", flag)]),
  ("AwaitExpression", [("argument", child)]),
  ("TSAsExpression", [("expression", child)]),
  ("TSSatisfiesExpression", [("expression", child)]),
  ("TSNonNullExpression", [("expression", child)]),
  ("TSInterfaceBody", [("body", list)]),
  ("TSInterfaceDeclaration", [("id", child), ("body", node (some "TSInterfaceBody"))]),
  ("TSTypeAliasDeclaration", [("id", child)]),
  ("TSTypeLiteral", [("members", list)]),
  ("TSPropertySignature", [("key", child), ("computed", flag)]),
  ("TSMethodSignature", [("key", child), ("computed", flag)]),
  ("TSTypeReference", [("typeName", child), ("typeParameters", child)]),
  ("TSQualifiedName", [("left", child), ("right", child)]),
  ("TSTypeParameterInstantiation", [("params", list)])]

open Content in
/-- The fields that a node of any kind may have: the constituents of a node without a layout, and
what a parameter that is annotated or optional has besides its own fields. -/
def commonFields : List (String × Content) :=
  [("children", list), ("typeAnnotation", child), ("optional", flag)]

/-- The content of a field in a kind of node; nothing if the kind has no such field. -/
def contentOf (kind name : String) : Option Content :=
  ((layouts.lookup kind).getD [] ++ commonFields).lookup name

/-- What is known of the fields of a name in all layouts is known of its content. -/
theorem of_contentOf {kind name : String} {c : Content} {P : String → Content → Prop}
    (h : contentOf kind name = some c)
    (listed : ∀ l ∈ layouts, ∀ field ∈ l.2, field.1 = name → P l.1 field.2)
    (common : ∀ field ∈ commonFields, field.1 = name → P kind field.2) : P kind c := by
  obtain ⟨front, back, heq, -⟩ := List.lookup_eq_some_iff.1 h
  have mem : (name, c) ∈ (layouts.lookup kind).getD [] ++ commonFields := by simp [heq]
  rcases List.mem_append.1 mem with hl | hc
  · cases hk : layouts.lookup kind with
    | none => simp [hk] at hl
    | some fields =>
      obtain ⟨front, back, heq, -⟩ := List.lookup_eq_some_iff.1 hk
      exact listed (kind, fields) (by simp [heq]) (name, c) (by simpa [hk] using hl) rfl
  · exact common (name, c) hc rfl

/-- A field that not every node may have tells something of the kind. -/
theorem kind_of_contentOf {kind name : String} {c : Content} {P : String → Prop}
    (h : contentOf kind name = some c) (own : ∀ field ∈ commonFields, field.1 ≠ name)
    (listed : ∀ l ∈ layouts, ∀ field ∈ l.2, field.1 = name → P l.1) : P kind :=
  of_contentOf (P := fun kind _ => P kind) h listed fun field hf hn => absurd hn (own field hf)

/-- A field that no layout has is the same in all kinds. -/
theorem contentOf_eq_common {name : String}
    (unlisted : ∀ l ∈ layouts, ∀ field ∈ l.2, field.1 ≠ name) (kind : String) :
    contentOf kind name = commonFields.lookup name := by
  rw [contentOf, List.lookup_append]
  have none : ((layouts.lookup kind).getD []).lookup name = none := by
    rw [List.lookup_eq_none_iff]
    intro field hf
    cases hk : layouts.lookup kind with
    | none => simp [hk] at hf
    | some fields =>
      obtain ⟨front, back, heq, -⟩ := List.lookup_eq_some_iff.1 hk
      have hne := unlisted (kind, fields) (by simp [heq]) field (by simpa [hk] using hf)
      simpa using hne.symm
  rw [none, Option.none_or]

theorem contentOf_children (kind : String) : contentOf kind "children" = some .list :=
  contentOf_eq_common (by decide) kind

theorem contentOf_annotatedType (kind : String) : contentOf kind "typeAnnotation" = some .child :=
  contentOf_eq_common (by decide) kind

theorem contentOf_optional (kind : String) : contentOf kind "optional" = some .flag :=
  contentOf_eq_common (by decide) kind

/-- Whether the content of a field of a name is of one sort in all kinds of nodes. -/
def fieldsAre (sort : Content → Bool) (name : String) : Bool :=
  (layouts.flatMap (·.2) ++ commonFields).all fun field => field.1 != name || sort field.2

/-- Whether all kinds of nodes that have a field of a name have one node or none in it. -/
abbrev nodeField (name : String) : Bool := fieldsAre Content.isNode name

/-- Whether all kinds of nodes that have a field of a name have a list in it. -/
abbrev listField (name : String) : Bool := fieldsAre Content.isList name

theorem contentOf_of_fieldsAre {kind name : String} {c : Content} {sort : Content → Bool}
    (all : fieldsAre sort name = true) (h : contentOf kind name = some c) : sort c = true := by
  rw [fieldsAre, List.all_eq_true] at all
  have found : ∀ field ∈ layouts.flatMap (·.2) ++ commonFields, field.1 = name →
      sort field.2 = true := by
    intro field hf hn
    simpa [hn] using all field hf
  refine of_contentOf (P := fun _ c => sort c = true) h (fun l hl field hf hn => ?_)
    fun field hf hn => ?_
  · exact found field (List.mem_append_left _ (List.mem_flatMap.2 ⟨l, hl, hf⟩)) hn
  · exact found field (List.mem_append_right _ hf) hn

theorem contentOf_nodeField {kind name : String} {c : Content} (hn : nodeField name = true)
    (h : contentOf kind name = some c) : ∃ k, c = .node k := by
  have hc := contentOf_of_fieldsAre hn h
  cases c with
  | node k => exact ⟨k, rfl⟩
  | nodes _ => cases hc
  | scalar => cases hc
  | text => cases hc
  | spelling => cases hc
  | flag => cases hc

theorem contentOf_listField {kind name : String} {c : Content} (hn : listField name = true)
    (h : contentOf kind name = some c) : ∃ k, c = .nodes k := by
  have hc := contentOf_of_fieldsAre hn h
  cases c with
  | nodes k => exact ⟨k, rfl⟩
  | node _ => cases hc
  | scalar => cases hc
  | text => cases hc
  | spelling => cases hc
  | flag => cases hc

theorem contentOf_name {kind : String} {c : Content} (h : contentOf kind "name" = some c) :
    c = .spelling :=
  of_contentOf (P := fun _ c => c = .spelling) h (by decide) (by decide)

/-! ### Well-formed nodes -/

/-- A node whose fields and those of all nodes under it hold what the layouts say, and all of which
are located where their spans are. -/
inductive Node.WellFormed (source : SourceText) : Node → Prop
  | mk {head : Head} {fields : List (String × Slot Node)}
    (located : head.location = some (source.location head.span))
    (known : ∀ field ∈ fields, ∃ c, contentOf head.kind field.1 = some c ∧
      c.Allows (source.text head.span) field.2)
    (under : ∀ field ∈ fields, ∀ n ∈ field.2.nodeList, WellFormed source n) :
    WellFormed source (.mk head fields)

variable {source : SourceText}

namespace Node.WellFormed

theorem child {p n : Node} (h : p.WellFormed source) (hn : n ∈ p.children) :
    n.WellFormed source := by
  cases h with
  | mk located known under =>
    obtain ⟨field, hf, hn⟩ := List.mem_flatMap.1 hn
    exact under field hf n hn

/-- A field holds nothing or what its kind of node says. -/
theorem get {n : Node} (h : n.WellFormed source) (name : String) : n.get name = .null ∨
    ∃ c, contentOf n.kind name = some c ∧ c.Allows (source.text n.span) (n.get name) := by
  cases h with
  | @mk head fields located known under =>
    cases hv : fields.lookup name with
    | none => exact .inl (by rw [Node.get, Node.fields, hv]; rfl)
    | some v =>
      have hg : (Node.mk head fields).get name = v := by rw [Node.get, Node.fields, hv]; rfl
      obtain ⟨front, back, rfl, -⟩ := List.lookup_eq_some_iff.1 hv
      rw [hg]
      exact .inr (known (name, v) (by simp))

/-- The rows and columns of a node are those of its span. -/
theorem location_eq {n : Node} (h : n.WellFormed source) :
    n.location = some (source.location n.span) := by
  cases h with
  | mk located known under => exact located

end Node.WellFormed

namespace Site
variable {r s c : Site} {name : String} {kind : Option String}

theorem wellFormed_of_mem_children (h : s.node.WellFormed source) (hc : c ∈ s.children) :
    c.node.WellFormed source := by
  obtain ⟨slot, item, n, hn, rfl⟩ := mem_children hc
  exact h.child hn

theorem wellFormed_of_mem_walk (h : r.node.WellFormed source) :
    ∀ s ∈ r.walk, s.node.WellFormed source :=
  walk_induction h fun _ _ hs _ hc => wellFormed_of_mem_children hs hc

/-! ### Reading a well-formed node -/

/-- A field that its kind of node does not have holds nothing. -/
theorem get_of_contentOf_eq_none (h : s.node.WellFormed source)
    (hc : contentOf s.kind name = none) : s.get name = .null := by
  rcases get_eq s name with ⟨-, hs⟩ | ⟨slot, -, hs⟩
  · exact hs
  · rcases h.get name with hn | ⟨c, hc', -⟩
    · rw [hs, hn]
      rfl
    · rw [show contentOf s.node.kind name = none from hc] at hc'
      cases hc'

/-- A field that its kind of node has holds nothing or what the layout says. -/
theorem get_of_contentOf {content : Content} (h : s.node.WellFormed source)
    (hc : contentOf s.kind name = some content) : s.get name = .null ∨
      ∃ slot v, s.get name = s.lift slot v ∧ content.Allows (source.text s.span) v := by
  rcases get_eq s name with ⟨-, hs⟩ | ⟨slot, -, hs⟩
  · exact .inl hs
  · rcases h.get name with hn | ⟨c, hc', allowed⟩
    · exact .inl (by rw [hs, hn]; rfl)
    · obtain rfl := Option.some.inj (hc.symm.trans hc')
      exact .inr ⟨slot, _, hs, allowed⟩

/-- A field for one node holds nothing or a child. -/
theorem get_node (h : s.node.WellFormed source) (hc : contentOf s.kind name = some (.node kind)) :
    s.get name = .null ∨ ∃ c ∈ s.children, s.get name = .node c ∧ ∀ k ∈ kind, c.kind = k := by
  rcases get_of_contentOf h hc with hg | ⟨slot, v, hg, rfl | ⟨n, rfl, hk⟩⟩
  · exact .inl hg
  · exact .inl hg
  · have hg : s.get name = .node (s.below slot 0 n) := hg
    have mem : s.below slot 0 n ∈ (s.get name).nodeList := by
      simp [hg, Slot.nodeList, Slot.entries, Entry.node?]
    exact .inr ⟨s.below slot 0 n, mem_of_get_nodeList mem, hg, hk⟩

/-- The child in a field for one node. -/
def child? (s : Site) (name : String) : Option Site := (s.get name).nodeList.head?

theorem mem_children_of_child? (h : s.child? name = some c) : c ∈ s.children :=
  mem_of_get_nodeList (List.mem_of_mem_head? h)

theorem child?_eq_of_get (h : s.get name = .node c) : s.child? name = some c := by
  rw [child?, h]
  rfl

/-- Reading a field for one node finds the child in it. -/
theorem site?_get (h : s.node.WellFormed source) (hc : contentOf s.kind name = some (.node kind)) :
    (s.get name).site? = .ok (s.child? name) := by
  rcases get_node h hc with hg | ⟨c, -, hg, -⟩
  · rw [child?, hg]
    rfl
  · rw [child?_eq_of_get hg, hg]
    rfl

theorem nodeList_get (h : s.node.WellFormed source)
    (hc : contentOf s.kind name = some (.node kind)) :
    (s.get name).nodeList = (s.child? name).toList := by
  rcases get_node h hc with hg | ⟨c, -, hg, -⟩
  · rw [child?, hg]
    rfl
  · rw [child?_eq_of_get hg, hg]
    rfl

theorem eq_map_node_of_forall {α : Type} {es : List (Entry α)} (h : ∀ e ∈ es, ∃ n, e = .node n) :
    es = (es.filterMap Entry.node?).map Entry.node := by
  induction es with
  | nil => rfl
  | cons e es ih =>
    obtain ⟨n, rfl⟩ := h e (List.mem_cons_self ..)
    have rest := ih fun e he => h e (List.mem_cons_of_mem _ he)
    simpa [Entry.node?] using rest

/-- A list of nodes is seen as the list of the children that they are. -/
theorem lift_nodes (s : Site) (slot : ℕ) (ns : List Node) :
    s.lift slot (.nodes ns) = .nodes (s.lift slot (.nodes ns)).nodeList := by
  have all : ∀ e ∈ (s.lift slot (.nodes ns)).entries, ∃ c, e = .node c := by
    rw [entries_lift]
    intro e he
    obtain ⟨item, hi, rfl⟩ := List.mem_mapIdx.1 he
    obtain ⟨n, -, hn⟩ := List.mem_map.1 (List.getElem_mem hi)
    exact ⟨s.below slot item n, by rw [← hn]; rfl⟩
  exact congrArg Slot.many (eq_map_node_of_forall all)

/-- A field for a list holds a list of nodes, or nothing if it is missing. -/
theorem get_nodes (h : s.node.WellFormed source)
    (hc : contentOf s.kind name = some (.nodes kind)) :
    (s.get name = .null ∨ s.get name = .nodes (s.get name).nodeList) ∧
      ∀ c ∈ (s.get name).nodeList, ∀ k ∈ kind, c.kind = k := by
  rcases get_of_contentOf h hc with hg | ⟨slot, v, hg, ns, rfl, hk⟩
  · rw [hg]
    exact ⟨.inl rfl, by simp [Slot.nodeList, Slot.entries, Entry.node?]⟩
  · rw [hg]
    refine ⟨.inr (lift_nodes s slot ns), fun c hc k hkind => ?_⟩
    -- each site of the list is one of its nodes, seen from the parent
    obtain ⟨item, n, hn, rfl⟩ := mem_nodeList_lift_iff.1 hc
    obtain ⟨e, he, hn⟩ := Option.bind_eq_some_iff.1 hn
    obtain ⟨m, hm, rfl⟩ := List.mem_map.1 (List.mem_of_getElem? he)
    obtain rfl : m = n := Option.some.inj hn
    exact hk m hm k hkind

/-- The entries of a field for a list. -/
theorem items_get (h : s.node.WellFormed source)
    (hc : contentOf s.kind name = some (.nodes kind)) :
    (s.get name).items = .ok ((s.get name).nodeList.map .node) := by
  rcases (get_nodes h hc).1 with hg | hg
  · rw [hg]
    rfl
  · conv_lhs => rw [hg]
    rfl

/-! A field of a name that means the same in all kinds is read without looking at the kind. -/

theorem get_nodeField (h : s.node.WellFormed source) (hn : nodeField name = true) :
    s.get name = .null ∨ ∃ c ∈ s.children, s.get name = .node c := by
  cases hc : contentOf s.kind name with
  | none => exact .inl (get_of_contentOf_eq_none h hc)
  | some content =>
    obtain ⟨k, rfl⟩ := contentOf_nodeField hn hc
    rcases get_node h hc with hg | ⟨c, mem, hg, -⟩
    · exact .inl hg
    · exact .inr ⟨c, mem, hg⟩

theorem site?_nodeField (h : s.node.WellFormed source) (hn : nodeField name = true) :
    (s.get name).site? = .ok (s.child? name) := by
  rcases get_nodeField h hn with hg | ⟨c, -, hg⟩
  · rw [child?, hg]
    rfl
  · rw [child?_eq_of_get hg, hg]
    rfl

/-- A step that looks at the child in a field goes on without a child or with one. -/
theorem returns_bind_child {β : Type} {P : β → Prop} {k : Option Site → Except Fault β}
    (h : s.node.WellFormed source) (hn : nodeField name = true) (absent : Returns (k none) P)
    (present : ∀ c ∈ s.children, Returns (k (some c)) P) :
    Returns ((s.get name).site? >>= k) P := by
  rw [site?_nodeField h hn, ok_bind]
  cases hc : s.child? name with
  | none => exact absent
  | some c => exact present c (mem_children_of_child? hc)

theorem get_listField (h : s.node.WellFormed source) (hn : listField name = true) :
    s.get name = .null ∨ s.get name = .nodes (s.get name).nodeList := by
  cases hc : contentOf s.kind name with
  | none => exact .inl (get_of_contentOf_eq_none h hc)
  | some content =>
    obtain ⟨k, rfl⟩ := contentOf_listField hn hc
    exact (get_nodes h hc).1

theorem items_listField (h : s.node.WellFormed source) (hn : listField name = true) :
    (s.get name).items = .ok ((s.get name).nodeList.map .node) := by
  rcases get_listField h hn with hg | hg
  · rw [hg]
    rfl
  · conv_lhs => rw [hg]
    rfl

/-- A list in any field is a list of nodes. -/
theorem many_get {es : List (Entry Site)} (h : s.node.WellFormed source)
    (hg : s.get name = .many es) : es = (s.get name).nodeList.map .node := by
  cases hc : contentOf s.kind name with
  | none =>
    rw [get_of_contentOf_eq_none h hc] at hg
    cases hg
  | some content =>
    rcases get_of_contentOf h hc with hn | ⟨slot, v, hv, allowed⟩
    · rw [hn] at hg
      cases hg
    · cases v with
      | one e => rw [hv] at hg; cases hg
      | many ds =>
        -- only a field for a list may hold a list
        have nodes : ∃ ns : List Node, ds = ns.map .node := by
          cases content with
          | node _ => rcases allowed with he | ⟨_, he, _⟩ <;> cases he
          | nodes _ =>
            obtain ⟨ns, he, -⟩ := allowed
            exact ⟨ns, Slot.many.inj he⟩
          | scalar => rcases allowed with he | ⟨_, he⟩ <;> cases he
          | text => obtain ⟨_, he⟩ := allowed; cases he
          | spelling => cases allowed
          | flag => obtain ⟨_, he⟩ := allowed; cases he
        obtain ⟨ns, rfl⟩ := nodes
        rw [hg] at hv ⊢
        have lifted := lift_nodes s slot ns
        rw [← hv] at lifted
        exact Slot.many.inj lifted

/-- The name of a node is a text, if it has one. -/
theorem get_name (h : s.node.WellFormed source) :
    s.get "name" = .null ∨ ∃ t, s.get "name" = .text t := by
  cases hc : contentOf s.kind "name" with
  | none => exact .inl (get_of_contentOf_eq_none h hc)
  | some content =>
    obtain rfl := contentOf_name hc
    rcases get_of_contentOf h hc with hg | ⟨slot, v, hg, rfl⟩
    · exact .inl hg
    · exact .inr ⟨_, hg⟩

end Site

end PropOrder
