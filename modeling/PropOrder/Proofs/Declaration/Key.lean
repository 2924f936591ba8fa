import PropOrder.Proofs.Assembly.Named
import PropOrder.Proofs.Declaration
import PropOrder.Proofs.Keys

/-!
# Readers of keys

What a node is called is read in three ways: as the name or the value of its key (`keyValue`), as
the text that it is sorted by (`declarationKey`), and as that text with the source at hand. They
look at one node, the target: the key, or the argument if there is no key. What the first reader
finds there is what the second one writes down (`keyValue_eq`, `declarationKey_none`), and where the
key is a name, the third one finds the same in the source, because an identifier is called by its
text (`declarationKey_some`). So they agree on every node of a converted program
(`keysAgree_of_mem_walk`).
-/

namespace PropOrder

/-- The text of what a reader of keys found; nothing is an empty text. -/
def Value.keyText (v : Value) : Except Fault Value :=
  if v.isNull then return .text [] else return .text (← v.display)

namespace Site
variable {source : SourceText} {s t k a : Site}

/-- The node that a key is read off: the key, or else the argument. -/
def keyTarget? (s : Site) : Option Site := (s.child? "key").or (s.child? "argument")

/-- The name of an identifier, the value of anything else. -/
def nameOrValue (t : Site) : Value := if t.isIdentifier then t.get "name" else t.get "value"

/-! ### The target -/

theorem keyTarget?_eq_of_key (key : s.get "key" = .node k) : s.keyTarget? = some k := by
  rw [keyTarget?, child?_eq_of_get key, Option.some_or]

theorem keyTarget?_eq_of_argument (key : s.get "key" = .null)
    (argument : s.get "argument" = .node a) : s.keyTarget? = some a := by
  rw [keyTarget?, child?, key, child?_eq_of_get argument]
  rfl

theorem keyTarget?_eq_none (key : s.get "key" = .null) (argument : s.get "argument" = .null) :
    s.keyTarget? = none := by
  rw [keyTarget?, child?, child?, key, argument]
  rfl

theorem site?_orElse (wf : s.node.WellFormed source) :
    (orElse (s.get "key") (s.get "argument")).site? = .ok s.keyTarget? := by
  rcases get_nodeField wf (show nodeField "key" = true from rfl) with key | ⟨k, -, key⟩
  · rcases get_nodeField wf (show nodeField "argument" = true from rfl) with
      argument | ⟨a, -, argument⟩
    · rw [keyTarget?_eq_none key argument, key, argument]
      rfl
    · rw [keyTarget?_eq_of_argument key argument, key, argument]
      rfl
  · rw [keyTarget?_eq_of_key key, key]
    rfl

theorem mem_children_of_keyTarget? (h : s.keyTarget? = some t) : t ∈ s.children := by
  rcases Option.or_eq_some_iff.1 h with h | ⟨-, h⟩
  · exact mem_children_of_child? h
  · exact mem_children_of_child? h

/-! ### Readers and the target -/

/-- The value of the key is the name or the value of the target. -/
theorem keyValue_eq (wf : s.node.WellFormed source) :
    s.keyValue none = .ok (s.keyTarget?.elim .null nameOrValue) := by
  -- three kinds of nodes are read in ways of their own, and none of them has a layout
  have special (kind : String) (same : s.kind = kind) (key : contentOf kind "key" = none)
      (argument : contentOf kind "argument" = none) :
      s.keyTarget?.elim .null nameOrValue = .null := by
    subst same
    rw [keyTarget?_eq_none (get_of_contentOf_eq_none wf key)
      (get_of_contentOf_eq_none wf argument)]
    rfl
  unfold keyValue
  split
  · next reads => rw [special "ObjectTypeProperty" (eq_of_beq reads) rfl rfl]; rfl
  split
  · next generic =>
    have kind : s.kind = "GenericTypeAnnotation" := eq_of_beq generic
    have id : s.get "id" = .null := get_of_contentOf_eq_none wf (by rw [kind]; rfl)
    rw [special _ kind rfl rfl, id]
    rfl
  split
  · next annotation => rw [special "ObjectTypeAnnotation" (eq_of_beq annotation) rfl rfl]; rfl
  · rw [site?_orElse wf, ok_bind]
    cases s.keyTarget? with
    | none => rfl
    | some t => rfl

theorem get_value_of_isIdentifier (wf : t.node.WellFormed source) (h : t.isIdentifier = true) :
    t.get "value" = .null := by
  refine get_of_contentOf_eq_none wf ?_
  rw [show t.kind = "Identifier" from eq_of_beq h]
  rfl

/-- What a target gives to sort by, without the source, is the text of its name or value. -/
theorem targetKey_none (wf : t.node.WellFormed source) :
    t.targetKey none = t.nameOrValue.keyText := by
  rw [nameOrValue]
  show (if t.isIdentifier then _ else _) = _
  split
  · -- a name that is missing or empty is sorted by the empty text
    rw [nameOrEmpty]
    rcases get_name wf with hg | ⟨_ | _, hg⟩
    · rw [hg]; rfl
    · rw [hg]; rfl
    · rw [hg]; rfl
  · rw [valueText, Value.keyText]
    split <;> rfl

/-- A node without the source at hand is sorted by the text of the name or value of its target. -/
theorem declarationKey_none (wf : s.node.WellFormed source) :
    s.declarationKey none = (s.keyTarget?.elim .null nameOrValue).keyText := by
  have target := site?_orElse wf
  rcases get_nodeField wf (show nodeField "key" = true from rfl) with key | ⟨k, mem, key⟩
  · -- without a key there is no value to look at first
    rw [declarationKey, target, key]
    cases ht : s.keyTarget? with
    | none => rfl
    | some t =>
      exact targetKey_none (wellFormed_of_mem_children wf (mem_children_of_keyTarget? ht))
  · have wfk := wellFormed_of_mem_children wf mem
    rw [declarationKey, target, key, keyTarget?_eq_of_key key]
    show (if (k.get "value").truthy then _ else k.targetKey none) = k.nameOrValue.keyText
    split
    · next counts =>
      -- a value that counts as true is there, and is not that of an identifier
      have other : ¬k.isIdentifier = true := by
        intro identifier
        rw [get_value_of_isIdentifier wfk identifier] at counts
        cases counts
      have present : ¬(k.get "value").isNull = true := by
        intro null
        rw [Slot.eq_null_of_isNull null] at counts
        cases counts
      rw [nameOrValue, if_neg other, Value.keyText, if_neg present]
    · exact targetKey_none wfk

/-- The only names and values without a text are integers that are too long. -/
theorem exists_int_of_display_nameOrValue (wf : t.node.WellFormed source) {fault : Fault}
    (failed : t.nameOrValue.display = .error fault) :
    ∃ i, t.nameOrValue = .one (.scalar (.int i)) ∧ LongFault i fault := by
  unfold nameOrValue at failed ⊢
  split at failed
  · obtain ⟨text, shown, -⟩ := succeeds_display_name wf
    cases failed.symm.trans shown
  · next other =>
    obtain ⟨i, -, value, long⟩ := (returnsUnless_display wf).of_eq_error failed
    exact ⟨i, (if_neg other).trans value, long⟩

/-! ### The text of a key in the source -/

/-- A node whose key is read off the source as it is read off the program: an identifier, a literal
whose value counts as true, or an identifier as the argument if there is no key. -/
inductive HasPlainKey (s : Site) : Prop
  | identifier {k : Site} (key : s.get "key" = .node k) (kind : k.isIdentifier = true)
  | literal {k : Site} (key : s.get "key" = .node k) (kind : k.kind = "Literal")
    (counts : (k.get "value").truthy = true)
  | argument {a : Site} (key : s.get "key" = .null) (argument : s.get "argument" = .node a)
    (kind : a.isIdentifier = true)

/-- An identifier that is called by its text is read off the source. -/
theorem targetKey_some (named : t.get "name" = .text (source.text t.span))
    (identifier : t.isIdentifier = true) : t.targetKey (some source) = t.targetKey none := by
  rw [targetKey, targetKey, if_pos identifier, nameOrEmpty, named]
  cases source.text t.span with
  | nil => rfl
  | cons c rest => rfl

theorem declarationKey_some (wf : s.node.WellFormed source)
    (named : ∀ c ∈ s.children, c.isIdentifier = true → c.get "name" = .text (source.text c.span))
    (plain : s.HasPlainKey) : s.declarationKey (some source) = s.declarationKey none := by
  cases plain with
  | @identifier k key kind =>
    have mem := mem_children_of_keyTarget? (keyTarget?_eq_of_key key)
    rw [declarationKey, declarationKey, site?_orElse wf, keyTarget?_eq_of_key key, key]
    show (if (k.get "value").truthy then _ else _) = (if (k.get "value").truthy then _ else _)
    rw [get_value_of_isIdentifier (wellFormed_of_mem_children wf mem) kind]
    exact targetKey_some (named k mem kind) kind
  | @literal k key kind counts =>
    rw [declarationKey, declarationKey, key]
    show (if (k.get "value").truthy then _ else _) = (if (k.get "value").truthy then _ else _)
    rw [if_pos counts, if_pos counts]
  | @argument a key argument kind =>
    have target := keyTarget?_eq_of_argument key argument
    rw [declarationKey, declarationKey, site?_orElse wf, target, key]
    exact targetKey_some (named a (mem_children_of_keyTarget? target) kind) kind

/-! ### Converted programs -/

/-- The readers of the key of a node agree. -/
structure KeysAgree (source : SourceText) (s : Site) : Prop where
  /-- An identifier is called by its text in the source. -/
  named : s.isIdentifier = true → s.get "name" = .text (source.text s.span)
  /-- A node is sorted by the text of the value of its key, nothing being an empty text. There is
  such a text, but for an integer that is too long; then both fail. -/
  written : ∃ v, s.keyValue none = .ok v ∧ s.declarationKey none = v.keyText ∧
    ∀ fault, v.display = .error fault → ∃ i, v = .one (.scalar (.int i)) ∧ LongFault i fault
  /-- A plain key is the same when it is read off the source. -/
  plain : s.HasPlainKey → s.declarationKey (some source) = s.declarationKey none

/-- **The readers of keys agree on every node of a converted program, if no kind of the concrete
nodes is called as identifiers are.** -/
theorem keysAgree_of_mem_walk {source : SourceText} {tree : Concrete} {n : Node}
    (converts : Conversion.convert source tree = .ok n)
    (kinds : ∀ t ∈ tree.nodes, t.kind ≠ "Identifier") :
    ∀ s ∈ (Site.root n).walk, s.KeysAgree source := by
  have named : ∀ s ∈ (Site.root n).walk, s.isIdentifier = true →
      s.get "name" = .text (source.text s.span) := by
    intro s hs identifier
    exact Assembly.get_name_of_isIdentifier converts kinds hs (eq_of_beq identifier)
  intro s hs
  have wf := wellFormed_of_mem_walk (r := .root n) (Conversion.convert_wellFormed converts) s hs
  refine ⟨named s hs, ⟨_, keyValue_eq wf, declarationKey_none wf, fun fault failed => ?_⟩, ?_⟩
  · cases ht : s.keyTarget? with
    | none => rw [ht] at failed; cases failed
    | some t =>
      rw [ht] at failed
      have mem := mem_children_of_keyTarget? ht
      exact exists_int_of_display_nameOrValue (wellFormed_of_mem_children wf mem) failed
  · exact declarationKey_some wf fun c hc => named c (mem_walk_of_mem_children hs hc)

/-- The concrete tree of the source `({a, "b": 1, 0x0: 2, ...c})`. -/
def memberTree : Concrete :=
  .mk ⟨true, "program", "", ⟨0, 27⟩⟩ [
    .mk ⟨true, "expression_statement", "", ⟨0, 27⟩⟩ [
      .mk ⟨true, "parenthesized_expression", "", ⟨0, 27⟩⟩ [
        .mk ⟨true, "object", "", ⟨1, 26⟩⟩ [
          .mk ⟨true, "shorthand_property_identifier", "", ⟨2, 3⟩⟩ [],
          .mk ⟨true, "pair", "", ⟨5, 11⟩⟩ [
            .mk ⟨true, "string", "key", ⟨5, 8⟩⟩ [],
            .mk ⟨true, "number", "value", ⟨10, 11⟩⟩ []],
          .mk ⟨true, "pair", "", ⟨13, 19⟩⟩ [
            .mk ⟨true, "number", "key", ⟨13, 16⟩⟩ [],
            .mk ⟨true, "number", "value", ⟨18, 19⟩⟩ []],
          .mk ⟨true, "spread_element", "", ⟨21, 25⟩⟩ [
            .mk ⟨true, "identifier", "", ⟨24, 25⟩⟩ []]]]]]

/-- The source of `memberTree`. -/
def memberSource : SourceText := .ofString "(\x7ba, \"b\": 1, 0x0: 2, ...c\x7d)"

/-- What the members of the objects in a program are sorted by. -/
def memberKeys (source : Option SourceText) (n : Node) : List Text :=
  ((Site.root n).walk.filter fun s => s.kind == "Property" || s.isSpread).filterMap fun s =>
    (s.declarationKey source).toOption.bind Slot.text?

/-- The readers agree on all keys but on `0x0`, which counts as false: it is no plain key, and with
the source at hand it is sorted as it is written there. -/
theorem memberTree_keysAgree : ∃ n, Conversion.convert memberSource memberTree = .ok n ∧
    (∀ t ∈ memberTree.nodes, t.kind ≠ "Identifier") ∧
    (∀ s ∈ (Site.root n).walk, s.KeysAgree memberSource) ∧
    memberKeys none n = ["a", "b", "0", "c"].map .ofString ∧
    memberKeys (some memberSource) n = ["a", "b", "0x0", "c"].map .ofString := by
  have kinds : ∀ t ∈ memberTree.nodes, t.kind ≠ "Identifier" := by decide
  have keys : (Conversion.convert memberSource memberTree).toOption.map
      (fun n => (memberKeys none n, memberKeys (some memberSource) n)) =
        some (["a", "b", "0", "c"].map .ofString, ["a", "b", "0x0", "c"].map .ofString) := by
    decide +kernel
  obtain ⟨n, converts⟩ : ∃ n, Conversion.convert memberSource memberTree = .ok n := ⟨_, rfl⟩
  rw [converts] at keys
  obtain ⟨plain, written⟩ := Prod.mk.inj (Option.some.inj keys)
  exact ⟨n, converts, kinds, keysAgree_of_mem_walk converts kinds, plain, written⟩

end Site

end PropOrder
