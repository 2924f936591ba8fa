import PropOrder.Proofs.Binding
import PropOrder.Proofs.WellFormed.Conversion

/-!
# The nearest declaration of a name

The lists of statements around a site are those met on the way up from it (`ListsAt`). As each list
is searched in order, and each declaration in it, the search is one walk over the declarators of all
these lists in a row (`exists_listsAt`), and it ends at the first one that declares the name.
-/

namespace PropOrder

namespace Site
variable {source : SourceText} {n : Node} {s d : Site} {name : Text}

/-! ### Lists and declarators -/

/-- The lists of statements met on the way up from a site, the nearest first: the statements of a
case, the body of any other node that has a list as its body, and last the body of the root. A root
with a single node as its body has no list. -/
inductive ListsAt : Site → List (List Site) → Prop
  | case {s p : Site} {lists : List (List Site)} (parent : s.parent? = some p)
    (kind : s.kind = "SwitchCase") (rest : ListsAt p lists) :
    ListsAt s ((s.get "consequent").nodeList :: lists)
  | body {s p : Site} {lists : List (List Site)} {statements : List Site}
    (parent : s.parent? = some p) (kind : s.kind ≠ "SwitchCase")
    (held : s.get "body" = .nodes statements) (rest : ListsAt p lists) :
    ListsAt s (statements :: lists)
  | other {s p : Site} {lists : List (List Site)} (parent : s.parent? = some p)
    (kind : s.kind ≠ "SwitchCase") (listless : ∀ es, s.get "body" ≠ .many es)
    (rest : ListsAt p lists) : ListsAt s lists
  | root {s : Site} (top : s.parent? = none) (listed : ¬ SingleBody s) :
    ListsAt s [(s.get "body").nodeList]
  | single {s : Site} (top : s.parent? = none) (held : SingleBody s) : ListsAt s []

/-- The declarators of a declaration of variables; other nodes have none. -/
def ownDeclarators (s : Site) : List Site :=
  if s.kind = "VariableDeclaration" then (s.get "declarations").nodeList else []

/-- The declarators of a statement, or of the declaration that it exports. -/
def declarators (s : Site) : List Site :=
  if s.isExport then (s.get "declaration").nodeList.flatMap ownDeclarators else s.ownDeclarators

/-- All declarators of some lists, in the order in which they are searched. -/
def allDeclarators (lists : List (List Site)) : List Site := lists.flatten.flatMap declarators

theorem allDeclarators_cons (L : List Site) (lists : List (List Site)) :
    allDeclarators (L :: lists) = L.flatMap declarators ++ allDeclarators lists := by
  rw [allDeclarators, List.flatten_cons, List.flatMap_append]
  rfl

theorem allDeclarators_append (inner outer : List (List Site)) :
    allDeclarators (inner ++ outer) = allDeclarators inner ++ allDeclarators outer := by
  rw [allDeclarators, List.flatten_append, List.flatMap_append]
  rfl

theorem mem_allDeclarators {lists : List (List Site)} :
    d ∈ allDeclarators lists ↔ ∃ L ∈ lists, d ∈ L.flatMap declarators := by
  simp only [allDeclarators, List.mem_flatMap, List.mem_flatten]
  constructor
  · rintro ⟨s, ⟨L, hL, hs⟩, hd⟩
    exact ⟨L, hL, s, hs, hd⟩
  · rintro ⟨L, hL, s, hs, hd⟩
    exact ⟨s, ⟨L, hL, hs⟩, hd⟩

/-- A declarator has a given name as its target. -/
def Declares (name : Text) (d : Site) : Prop :=
  ∃ target, d.get "id" = .node target ∧ target.isIdentifier = true ∧
    target.get "name" = .text name

/-- The first of some lists that has a declarator of a name decides, by the first one in it. -/
inductive Decides (name : Text) : List (List Site) → Site → Prop
  | here {L before after : List Site} {lists : List (List Site)} {d : Site}
    (split : L.flatMap declarators = before ++ d :: after)
    (first : ∀ x ∈ before, ¬ x.Declares name) (declares : d.Declares name) :
    Decides name (L :: lists) d
  | outer {L : List Site} {lists : List (List Site)} {d : Site}
    (silent : ∀ x ∈ L.flatMap declarators, ¬ x.Declares name) (rest : Decides name lists d) :
    Decides name (L :: lists) d

/-- What a declarator binds its target to: nothing without an initializer, the expression of a claim
about its type, and any other initializer itself. -/
inductive Initializer (d : Site) : Value → Prop
  | missing (bare : d.get "init" = .null) : Initializer d .null
  | claim {v : Site} (given : d.get "init" = .node v) (kind : v.kind = "TSAsExpression") :
    Initializer d (v.get "expression")
  | plain {v : Site} (given : d.get "init" = .node v) (kind : v.kind ≠ "TSAsExpression") :
    Initializer d (.node v)

/-! ### The first answer -/

section FirstAnswer
variable {α β γ : Type} {f g : α → Except Fault (Option β)}

theorem firstAnswer_cons (a : α) (l : List α) : firstAnswer f (a :: l) =
    f a >>= fun b? => b?.elim (firstAnswer f l) fun b => .ok (some b) := by
  show (f a >>= _) = _
  congr 1
  funext b?
  cases b? with
  | none => rfl
  | some b => rfl

/-- What stands behind is looked at where there is no answer in front of it. -/
theorem firstAnswer_append (front back : List α) : firstAnswer f (front ++ back) =
    firstAnswer f front >>= fun b? => b?.elim (firstAnswer f back) fun b => .ok (some b) := by
  induction front with
  | nil => rfl
  | cons a front ih =>
    rw [List.cons_append, firstAnswer_cons, firstAnswer_cons, ih]
    cases f a with
    | error fault => rfl
    | ok b? =>
      cases b? with
      | none => rfl
      | some b => rfl

theorem firstAnswer_congr {l : List α} (h : ∀ a ∈ l, f a = g a) :
    firstAnswer f l = firstAnswer g l := by
  induction l with
  | nil => rfl
  | cons a l ih =>
    rw [firstAnswer_cons, firstAnswer_cons, h a (List.mem_cons_self ..),
      ih fun a ha => h a (List.mem_cons_of_mem _ ha)]

/-- Looking for the first answer in each of some lists in turn is looking for it in all of them in a
row. -/
theorem firstAnswer_flatMap (k : γ → List α) (l : List γ) :
    firstAnswer (fun c => firstAnswer f (k c)) l = firstAnswer f (l.flatMap k) := by
  induction l with
  | nil => rfl
  | cons c l ih => rw [firstAnswer_cons, List.flatMap_cons, firstAnswer_append, ih]

theorem firstAnswer_map (k : γ → α) (l : List γ) :
    firstAnswer f (l.map k) = firstAnswer (fun c => f (k c)) l := by
  induction l with
  | nil => rfl
  | cons c l ih => rw [List.map_cons, firstAnswer_cons, firstAnswer_cons, ih]

theorem firstAnswer_eq_none {l : List α} (h : ∀ a ∈ l, f a = .ok none) :
    firstAnswer f l = .ok none := by
  induction l with
  | nil => rfl
  | cons a l ih =>
    rw [firstAnswer_cons, h a (List.mem_cons_self ..), ok_bind]
    exact ih fun a ha => h a (List.mem_cons_of_mem _ ha)

theorem firstAnswer_eq_some {front back : List α} {a : α} {b : β}
    (before : ∀ a ∈ front, f a = .ok none) (answer : f a = .ok (some b)) :
    firstAnswer f (front ++ a :: back) = .ok (some b) := by
  rw [firstAnswer_append, firstAnswer_eq_none before, ok_bind]
  show firstAnswer f (a :: back) = _
  rw [firstAnswer_cons, answer]
  rfl

end FirstAnswer

/-! ### The search of a list -/

theorem bindingOfDeclaration_eq (wf : s.node.WellFormed source) (name : Value) :
    bindingOfDeclaration name s =
      firstAnswer (bindingOfDeclarator name) (s.ownDeclarators.map .node) := by
  rw [bindingOfDeclaration, ownDeclarators]
  split
  · next declaration =>
    rw [items_listField wf rfl, ok_bind, if_pos (eq_of_beq declaration)]
  · next other =>
    rw [if_neg (mt beq_iff_eq.2 other)]
    split
    -- nothing that is converted to an alias has a name to compare
    · next typeAlias =>
      have nameless : s.get "id" = .null := by
        refine get_of_contentOf_eq_none wf ?_
        rw [eq_of_beq typeAlias]
        rfl
      rw [nameless]
      rfl
    · rfl

theorem bindingOfStatement_eq (wf : s.node.WellFormed source) (name : Value) :
    bindingOfStatement name (.node s) =
      firstAnswer (bindingOfDeclarator name) (s.declarators.map .node) := by
  show (if s.isExport then _ else _) = _
  rw [declarators]
  split
  · rcases get_nodeField wf (show nodeField "declaration" = true from rfl) with hg | ⟨c, mem, hg⟩
    · rw [hg]
      rfl
    · rw [hg]
      show bindingOfDeclaration name c = _
      rw [bindingOfDeclaration_eq (wellFormed_of_mem_children wf mem)]
      simp [Slot.nodeList, Slot.entries, Entry.node?]
  · exact bindingOfDeclaration_eq wf name

/-- A list is searched by searching its declarators in a row. -/
theorem bindingInList_eq {v : Value} {statements : List Site}
    (items : v.items = .ok (statements.map .node))
    (wf : ∀ s ∈ statements, s.node.WellFormed source) (name : Value) :
    bindingInList name v =
      firstAnswer (bindingOfDeclarator name) ((statements.flatMap declarators).map .node) := by
  rw [bindingInList, items, ok_bind, firstAnswer_map,
    firstAnswer_congr fun s hs => bindingOfStatement_eq (wf s hs) name, firstAnswer_flatMap,
    List.map_flatMap]

/-! ### The search of all lists -/

theorem statementLists_of_parent? {p : Site} (program : Site) (parent : s.parent? = some p) :
    statementLists program (some s) =
      s.statementList?.toList ++ statementLists program (some p) := by
  have above : s.lineage = s :: p.lineage := by rw [lineage_cons, parent]; rfl
  show s.lineage.dropLast.filterMap statementList? ++ _ = _
  rw [above, List.dropLast_cons_of_ne_nil (by rw [lineage_cons]; exact List.cons_ne_nil _ _),
    List.filterMap_cons]
  cases s.statementList? with
  | none => rfl
  | some L => rfl

/-- Where no list has a declarator of a name, there is no answer, or a fault where the program has
no list. -/
def unlisted (program : Site) : Except Fault (Option Value) :=
  (program.get "body").items >>= fun _ => .ok none

/-- The search from a site is a search of the declarators of all lists around it in a row. -/
def SearchesAll (program s : Site) (name : Value) (lists : List (List Site)) : Prop :=
  firstAnswer (bindingInList name) (statementLists program (some s)) =
    firstAnswer (bindingOfDeclarator name) ((allDeclarators lists).map .node) >>= fun b? =>
      b?.elim (unlisted program) fun b => .ok (some b)

theorem SearchesAll.cons {program p : Site} {name L : Value} {lists : List (List Site)}
    {statements : List Site} (parent : s.parent? = some p) (list : s.statementList? = some L)
    (items : L.items = .ok (statements.map .node))
    (wf : ∀ s ∈ statements, s.node.WellFormed source) (rest : SearchesAll program p name lists) :
    SearchesAll program s name (statements :: lists) := by
  rw [SearchesAll, statementLists_of_parent? program parent, list]
  show firstAnswer _ (L :: statementLists program (some p)) = _
  rw [firstAnswer_cons, rest, bindingInList_eq items wf, allDeclarators_cons,
    List.map_append, firstAnswer_append]
  cases firstAnswer (bindingOfDeclarator name) ((statements.flatMap declarators).map .node) with
  | error fault => rfl
  | ok b? =>
    cases b? with
    | none => rfl
    | some b => rfl

/-- From every site of a program there are lists on the way up, and the search goes through them. -/
theorem exists_listsAt (wf : n.WellFormed source) (name : Value) (hs : s ∈ (root n).walk) :
    ∃ lists, ListsAt s lists ∧ SearchesAll (root n) s name lists := by
  -- by induction down the program: a site puts its own list, if any, in front of those above it
  refine walk_induction
    (P := fun s => ∃ lists, ListsAt s lists ∧ SearchesAll (root n) s name lists) ?_ ?_ s hs
  · have lists : statementLists (root n) (some (root n)) = [(root n).get "body"] := rfl
    rcases returnsUnless_items_body (r := root n) wf with ⟨es, items, rfl⟩ | ⟨fault, ⟨-, held⟩, -⟩
    · have listed : ¬ SingleBody (root n) := by
        rintro ⟨b, hb⟩
        rw [hb] at items
        cases items
      refine ⟨_, .root rfl listed, ?_⟩
      have statements : ∀ s ∈ ((root n).get "body").nodeList, s.node.WellFormed source :=
        fun s hs => wellFormed_of_mem_children (s := root n) wf (mem_of_get_nodeList hs)
      rw [SearchesAll, lists, unlisted, items, firstAnswer_cons, bindingInList_eq items statements,
        allDeclarators, List.flatten_singleton]
      rfl
    · refine ⟨[], .single rfl held, ?_⟩
      obtain ⟨b, hb⟩ := held
      rw [SearchesAll, lists, unlisted, hb]
      rfl
  · rintro p hp ⟨lists, above, search⟩ c hc
    have parent := parent?_of_mem_children hc
    have wfc := wellFormed_of_mem_children (wellFormed_of_mem_walk (r := root n) wf p hp) hc
    have inField : ∀ {field : String}, ∀ s ∈ (c.get field).nodeList, s.node.WellFormed source :=
      fun s hs => wellFormed_of_mem_children wfc (mem_of_get_nodeList hs)
    by_cases case : c.kind = "SwitchCase"
    · have list : c.statementList? = some (c.get "consequent") := by rw [statementList?, case]; rfl
      have content : contentOf c.kind "consequent" = some .list := by rw [case]; rfl
      exact ⟨_, .case parent case above, search.cons parent list (items_get wfc content) inField⟩
    cases held : c.get "body" with
    | many es =>
      have list : c.statementList? = some (.many es) := by
        rw [statementList?, if_neg (mt beq_iff_eq.1 case), held]
      obtain rfl := many_get wfc held
      exact ⟨_, .body parent case held above, search.cons parent list rfl inField⟩
    | one e =>
      have list : c.statementList? = none := by
        rw [statementList?, if_neg (mt beq_iff_eq.1 case), held]
      refine ⟨lists, .other parent case (by rw [held]; rintro es ⟨⟩) above, ?_⟩
      rw [SearchesAll, statementLists_of_parent? (root n) parent, list]
      exact search

/-! ### Sites of the lists -/

theorem mem_walk_of_mem_declarators {r : Site} (hs : s ∈ r.walk) (hd : d ∈ s.declarators) :
    d ∈ r.walk := by
  have own : ∀ {t}, t ∈ r.walk → d ∈ t.ownDeclarators → d ∈ r.walk := by
    intro t ht hd
    rw [ownDeclarators] at hd
    split at hd
    · exact mem_walk_of_mem_children ht (mem_of_get_nodeList hd)
    · cases hd
  rw [declarators] at hd
  split at hd
  · obtain ⟨t, ht, hd⟩ := List.mem_flatMap.1 hd
    exact own (mem_walk_of_mem_children hs (mem_of_get_nodeList ht)) hd
  · exact own hs hd

theorem ListsAt.mem_walk {lists : List (List Site)} (h : ListsAt s lists)
    (hs : s ∈ (Site.root n).walk) : ∀ L ∈ lists, ∀ x ∈ L, x ∈ (Site.root n).walk := by
  have inField : ∀ {s : Site}, s ∈ (Site.root n).walk → ∀ field, ∀ x ∈ (s.get field).nodeList,
      x ∈ (Site.root n).walk :=
    fun hs _ x hx => mem_walk_of_mem_children hs (mem_of_get_nodeList hx)
  induction h with
  | case parent kind rest ih =>
    exact List.forall_mem_cons.2 ⟨inField hs _, ih (mem_children_of_parent? hs parent).1⟩
  | @body s p lists statements parent kind held rest ih =>
    refine List.forall_mem_cons.2 ⟨fun x hx => ?_, ih (mem_children_of_parent? hs parent).1⟩
    refine inField hs "body" x ?_
    rw [held, Slot.nodeList_nodes]
    exact hx
  | other parent kind listless rest ih => exact ih (mem_children_of_parent? hs parent).1
  | root top listed => exact List.forall_mem_singleton.2 (inField hs _)
  | single top held => simp

/-- A site has the lists around it in one way only. -/
theorem ListsAt.unique {lists lists' : List (List Site)} (h : ListsAt s lists)
    (h' : ListsAt s lists') : lists = lists' := by
  induction h generalizing lists' with
  | case parent kind rest ih => cases h' <;> grind
  | body parent kind held rest ih => cases h' <;> grind [Slot.nodeList_nodes]
  | other parent kind listless rest ih => cases h' <;> grind
  | root top listed => cases h' <;> grind
  | single top held => cases h' <;> grind

/-! ### The declarator that decides -/

theorem bindingOfDeclarator_of_declares (wf : d.node.WellFormed source) (h : d.Declares name) :
    ∃ v, d.Initializer v ∧ bindingOfDeclarator (.text name) (.node d) = .ok (some v) := by
  obtain ⟨target, hid, identifier, named⟩ := h
  have same : (target.isIdentifier && (target.get "name").eqv (.text name)) = true := by
    rw [identifier, named]
    exact beq_self_eq_true name
  have rule : bindingOfDeclarator (.text name) (.node d) =
      unwrapClaim? (d.get "init") >>= fun v => .ok (some v) := by
    show ((d.get "id").site? >>= _) = _
    rw [hid]
    exact if_pos same
  rw [rule]
  rcases get_nodeField wf (show nodeField "init" = true from rfl) with hg | ⟨v, -, hg⟩
  · exact ⟨.null, .missing hg, by rw [hg]; rfl⟩
  · have unwrapped : unwrapClaim? (d.get "init") = .ok v.unwrapClaim := by rw [hg]; rfl
    rw [unwrapped, unwrapClaim]
    by_cases claim : v.kind = "TSAsExpression"
    · exact ⟨_, .claim hg claim, by rw [if_pos (beq_iff_eq.2 claim)]; rfl⟩
    · exact ⟨_, .plain hg claim, by rw [if_neg (mt beq_iff_eq.1 claim)]; rfl⟩

theorem bindingOfDeclarator_of_not_declares (wf : d.node.WellFormed source)
    (h : ¬ d.Declares name) : bindingOfDeclarator (.text name) (.node d) = .ok none := by
  show ((d.get "id").site? >>= _) = _
  rcases get_nodeField wf (show nodeField "id" = true from rfl) with hg | ⟨target, mem, hg⟩
  · rw [hg]
    rfl
  · rw [hg]
    refine if_neg fun same => h ⟨target, hg, ?_⟩
    obtain ⟨identifier, same⟩ := Bool.and_eq_true_iff.1 same
    refine ⟨identifier, ?_⟩
    rcases get_name (wellFormed_of_mem_children wf mem) with hn | ⟨t, hn⟩
    · rw [hn] at same
      cases same
    · rw [hn] at same ⊢
      rw [eq_of_beq (show (t == name) = true from same)]

/-- The first declarator of a name decides what the name stands for. -/
theorem binding_of_first {lists : List (List Site)} {before after : List Site}
    (search : SearchesAll (root n) s (.text name) lists)
    (wf : ∀ x ∈ allDeclarators lists, x.node.WellFormed source)
    (split : allDeclarators lists = before ++ d :: after) (other : ∀ x ∈ before, ¬ x.Declares name)
    (declares : d.Declares name) :
    ∃ v, d.Initializer v ∧ binding (root n) (.text name) (some s) = .ok v := by
  rw [split] at wf
  obtain ⟨v, init, answer⟩ := bindingOfDeclarator_of_declares
    (wf d (List.mem_append_right _ (List.mem_cons_self ..))) declares
  have first : firstAnswer (bindingOfDeclarator (.text name)) ((allDeclarators lists).map .node) =
      .ok (some v) := by
    rw [split, List.map_append, List.map_cons]
    refine firstAnswer_eq_some (fun e he => ?_) answer
    obtain ⟨x, hx, rfl⟩ := List.mem_map.1 he
    exact bindingOfDeclarator_of_not_declares (wf x (List.mem_append_left _ hx)) (other x hx)
  refine ⟨v, init, ?_⟩
  rw [SearchesAll, first] at search
  rw [binding, search]
  rfl

/-- Without a declarator of a name the name stands for nothing, if the program has a list. -/
theorem binding_of_none {lists : List (List Site)}
    (search : SearchesAll (root n) s (.text name) lists)
    (wf : ∀ x ∈ allDeclarators lists, x.node.WellFormed source)
    (none : ∀ x ∈ allDeclarators lists, ¬ x.Declares name) :
    binding (root n) (.text name) (some s) =
      ((root n).get "body").items >>= fun _ => .ok .null := by
  have first : firstAnswer (bindingOfDeclarator (.text name)) ((allDeclarators lists).map .node) =
      .ok .none := by
    refine firstAnswer_eq_none fun e he => ?_
    obtain ⟨x, hx, rfl⟩ := List.mem_map.1 he
    exact bindingOfDeclarator_of_not_declares (wf x hx) (none x hx)
  rw [SearchesAll, first, ok_bind, Option.elim_none, unlisted] at search
  rw [binding, search]
  cases ((root n).get "body").items with
  | error fault => rfl
  | ok es => rfl

theorem Decides.exists_split {lists : List (List Site)} (h : Decides name lists d) :
    d.Declares name ∧ ∃ before after, allDeclarators lists = before ++ d :: after ∧
      ∀ x ∈ before, ¬ x.Declares name := by
  induction h with
  | @here L before after lists d split first declares =>
    refine ⟨declares, before, after ++ allDeclarators lists, ?_, first⟩
    rw [allDeclarators_cons, split, List.append_assoc, List.cons_append]
  | @outer L lists d silent rest ih =>
    obtain ⟨declares, before, after, split, first⟩ := ih
    refine ⟨declares, L.flatMap declarators ++ before, after, ?_, ?_⟩
    · rw [allDeclarators_cons, split, List.append_assoc]
    · exact List.forall_mem_append.2 ⟨silent, first⟩

/-! ### Lists of equal nodes -/

theorem map_node_ownDeclarators {t : Site} (h : s.node = t.node) :
    s.ownDeclarators.map node = t.ownDeclarators.map node := by
  have kinds : s.kind = t.kind := congrArg Node.kind h
  rw [ownDeclarators, ownDeclarators, kinds]
  split
  · rw [map_node_nodeList_get, map_node_nodeList_get, h]
  · rfl

/-- What is collected from sites of equal nodes has equal nodes, if it has so for each site. -/
theorem map_node_flatMap {k : Site → List Site} {xs ys : List Site}
    (each : ∀ {s t : Site}, s.node = t.node → (k s).map node = (k t).map node)
    (h : xs.map node = ys.map node) : (xs.flatMap k).map node = (ys.flatMap k).map node := by
  induction xs generalizing ys with
  | nil => rw [List.map_eq_nil_iff.1 h.symm]
  | cons x xs ih =>
    obtain ⟨y, ys, rfl, hy, rest⟩ := List.map_eq_cons_iff.1 h.symm
    rw [List.flatMap_cons, List.flatMap_cons, List.map_append, List.map_append, each hy.symm,
      ih rest.symm]

theorem map_node_declarators {t : Site} (h : s.node = t.node) :
    s.declarators.map node = t.declarators.map node := by
  have exports : s.isExport = t.isExport := by rw [isExport, kind, h]; rfl
  rw [declarators, declarators, exports]
  split
  · refine map_node_flatMap map_node_ownDeclarators ?_
    rw [map_node_nodeList_get, map_node_nodeList_get, h]
  · exact map_node_ownDeclarators h

theorem map_node_allDeclarators {lists lists' : List (List Site)}
    (h : lists.map (·.map node) = lists'.map (·.map node)) :
    (allDeclarators lists).map node = (allDeclarators lists').map node := by
  refine map_node_flatMap map_node_declarators ?_
  rw [List.map_flatten, List.map_flatten, h]

theorem get_text_iff {field : String} {x : Text} :
    s.get field = .text x ↔ s.node.get field = .text x := by
  rcases get_eq s field with ⟨hn, hs⟩ | ⟨slot, -, hs⟩
  · rw [hn, hs]
    simp
  · rw [hs]
    rcases s.node.get field with (_ | v | m) | es <;> simp [lift, Entry.map]

/-- Whether a declarator has a given name as its target is told by its node. -/
theorem Declares.of_node_eq {t : Site} (h : s.node = t.node) (wf : t.node.WellFormed source)
    (declares : s.Declares name) : t.Declares name := by
  obtain ⟨target, hid, identifier, named⟩ := declares
  have one : (t.get "id").nodeList.map node = [target.node] := by
    rw [map_node_nodeList_get, ← h, ← map_node_nodeList_get, hid]
    rfl
  rcases get_nodeField wf (show nodeField "id" = true from rfl) with hg | ⟨target', -, hg⟩
  · rw [hg] at one
    cases one
  · rw [hg] at one
    have same : target'.node = target.node := (List.cons.inj one).1
    refine ⟨target', hg, ?_, ?_⟩
    · rw [isIdentifier, kind, same]
      exact identifier
    · rw [get_text_iff, same, ← get_text_iff, named]

/-- The nodes that a declarator binds its target to, read off its node. -/
def initialNodes (m : Node) : List Node :=
  (m.get "init").nodeList.flatMap fun v =>
    if v.kind = "TSAsExpression" then (v.get "expression").nodeList else [v]

theorem Initializer.map_node {v : Value} (h : s.Initializer v) :
    v.nodeList.map node = initialNodes s.node := by
  rw [initialNodes, ← map_node_nodeList_get]
  cases h with
  | missing bare =>
    rw [bare]
    rfl
  | @claim w given claim =>
    have claim : w.node.kind = "TSAsExpression" := claim
    rw [given, map_node_nodeList_get]
    simp [Slot.nodeList, Slot.entries, Entry.node?, claim]
  | @plain w given plain =>
    have plain : ¬ w.node.kind = "TSAsExpression" := plain
    rw [given]
    simp [Slot.nodeList, Slot.entries, Entry.node?, plain]

/-- The first item with a property among some items of a list that have it. -/
theorem exists_first {α : Type} {P : α → Prop} {l : List α} (h : ∃ a ∈ l, P a) :
    ∃ before a after, l = before ++ a :: after ∧ (∀ x ∈ before, ¬ P x) ∧ P a := by
  classical
  obtain ⟨a, ha, holds⟩ := h
  have found : (l.find? fun x => P x).isSome = true :=
    List.find?_isSome.2 ⟨a, ha, decide_eq_true holds⟩
  obtain ⟨x, hx⟩ := Option.isSome_iff_exists.1 found
  obtain ⟨holds, before, after, split, other⟩ := List.find?_eq_some_iff_append.1 hx
  refine ⟨before, x, after, split, fun y hy => ?_, of_decide_eq_true holds⟩
  simpa using other y hy

/-! ### What a name stands for -/

theorem wellFormed_of_mem_allDeclarators {lists : List (List Site)} (wf : n.WellFormed source)
    (hs : s ∈ (root n).walk) (above : ListsAt s lists) :
    ∀ x ∈ allDeclarators lists, x.node.WellFormed source := by
  intro x hx
  obtain ⟨L, hL, hx⟩ := mem_allDeclarators.1 hx
  obtain ⟨t, ht, hx⟩ := List.mem_flatMap.1 hx
  have walk := mem_walk_of_mem_declarators (above.mem_walk hs L hL t ht) hx
  exact wellFormed_of_mem_walk (r := root n) wf x walk

/-- The search from a site, told by the lists around it. -/
theorem searchesAll_of_listsAt {lists : List (List Site)} (wf : n.WellFormed source) (name : Value)
    (hs : s ∈ (root n).walk) (above : ListsAt s lists) :
    SearchesAll (root n) s name lists := by
  obtain ⟨lists', above', search⟩ := exists_listsAt wf name hs
  rwa [above.unique above']

/-- Where the nodes of the lists up to one that declares a name are equal, the name stands for equal
nodes. -/
theorem binding_of_equal_nodes {source' : SourceText} {n' : Node} {s' : Site}
    {inner outer inner' outer' : List (List Site)} (wf : n.WellFormed source)
    (wf' : n'.WellFormed source') (hs : s ∈ (root n).walk) (hs' : s' ∈ (root n').walk)
    (above : ListsAt s (inner ++ outer)) (above' : ListsAt s' (inner' ++ outer'))
    (same : inner.map (·.map node) = inner'.map (·.map node))
    (declared : ∃ L ∈ inner, ∃ d ∈ L.flatMap declarators, d.Declares name) :
    ∃ v v', binding (root n) (.text name) (some s) = .ok v ∧
      binding (root n') (.text name) (some s') = .ok v' ∧
      v.nodeList.map node = v'.nodeList.map node := by
  have wfs := wellFormed_of_mem_allDeclarators wf hs above
  have wfs' := wellFormed_of_mem_allDeclarators wf' hs' above'
  obtain ⟨L, hL, x, hx, declares⟩ := declared
  obtain ⟨before, d, after, split, other, declares⟩ :=
    exists_first (P := Declares name) ⟨x, mem_allDeclarators.2 ⟨L, hL, hx⟩, declares⟩
  -- the same cut of the declarators of the other lists
  have nodes := map_node_allDeclarators same
  rw [split, List.map_append, List.map_cons] at nodes
  obtain ⟨before', rest', split', hbefore, hrest⟩ := List.map_eq_append_iff.1 nodes.symm
  obtain ⟨d', after', rfl, hd, -⟩ := List.map_eq_cons_iff.1 hrest
  have row : allDeclarators (inner ++ outer) = before ++ d :: (after ++ allDeclarators outer) := by
    rw [allDeclarators_append, split, List.append_assoc, List.cons_append]
  have row' : allDeclarators (inner' ++ outer') =
      before' ++ d' :: (after' ++ allDeclarators outer') := by
    rw [allDeclarators_append, split', List.append_assoc, List.cons_append]
  have wfd' : d'.node.WellFormed source' := by
    refine wfs' d' ?_
    rw [row']
    exact List.mem_append_right _ (List.mem_cons_self ..)
  have other' : ∀ y ∈ before', ¬ y.Declares name := by
    intro y hy named
    have mem : y.node ∈ before.map node := hbefore ▸ List.mem_map_of_mem hy
    obtain ⟨x, hx, hxy⟩ := List.mem_map.1 mem
    have wfx : x.node.WellFormed source := by
      refine wfs x ?_
      rw [row]
      exact List.mem_append_left _ hx
    exact other x hx (named.of_node_eq hxy.symm wfx)
  obtain ⟨v, init, answer⟩ :=
    binding_of_first (searchesAll_of_listsAt wf _ hs above) wfs row other declares
  obtain ⟨v', init', answer'⟩ := binding_of_first (searchesAll_of_listsAt wf' _ hs' above') wfs'
    row' other' (declares.of_node_eq hd.symm wfd')
  refine ⟨v, v', answer, answer', ?_⟩
  rw [init.map_node, init'.map_node, hd]

/-- Looking from nowhere is looking from the program itself. -/
theorem binding_eq_getD (n : Node) (name : Value) (s? : Option Site) :
    binding (root n) name s? = binding (root n) name (some (s?.getD (root n))) := by
  cases s? with
  | none => rfl
  | some s => rfl

/-- **The innermost declaration wins. In every program that is converted a name stands for what the
first of the lists around a site that has a declarator of the name says, by the first one in it. The
name stands for nothing if no list has one and the program is a list of statements; a root with a
single node in that place cannot be searched. Only the lists up to the one that decides count: where
these have the same nodes, in this program or another one, the name stands for the same node.** -/
theorem binding_innermost {tree : Concrete} (converted : Conversion.convert source tree = .ok n)
    (name : Text) {s? : Option Site} (hs : ∀ s ∈ s?, s ∈ (root n).walk) :
    ∃ lists, ListsAt (s?.getD (root n)) lists ∧
      (∀ d, Decides name lists d →
        ∃ v, d.Initializer v ∧ binding (root n) (.text name) s? = .ok v) ∧
      ((∀ L ∈ lists, ∀ d ∈ L.flatMap declarators, ¬ d.Declares name) →
        (¬ SingleBody (root n) → binding (root n) (.text name) s? = .ok .null) ∧
        (SingleBody (root n) → binding (root n) (.text name) s? = .error .notAList)) ∧
      (tree.kind = "program" → ¬ SingleBody (root n)) ∧
      ∀ {source' : SourceText} {tree' : Concrete} {n' : Node} {s'? : Option Site}
        {inner outer inner' outer' : List (List Site)},
        Conversion.convert source' tree' = .ok n' → (∀ s ∈ s'?, s ∈ (root n').walk) →
        lists = inner ++ outer → ListsAt (s'?.getD (root n')) (inner' ++ outer') →
        inner.map (·.map node) = inner'.map (·.map node) →
        (∃ L ∈ inner, ∃ d ∈ L.flatMap declarators, d.Declares name) →
        ∃ v v', binding (root n) (.text name) s? = .ok v ∧
          binding (root n') (.text name) s'? = .ok v' ∧
          v.nodeList.map node = v'.nodeList.map node := by
  have wf := Conversion.convert_wellFormed converted
  have start : ∀ {m : Node} {t? : Option Site}, (∀ s ∈ t?, s ∈ (root m).walk) →
      t?.getD (root m) ∈ (root m).walk := by
    intro m t? ht
    cases t? with
    | none => exact mem_walk_self _
    | some t => exact ht t rfl
  obtain ⟨lists, above, search⟩ := exists_listsAt wf (.text name) (start hs)
  have wfs := wellFormed_of_mem_allDeclarators wf (start hs) above
  rw [binding_eq_getD n]
  refine ⟨lists, above, fun d decides => ?_, fun silent => ?_, fun program => ?_, ?_⟩
  · obtain ⟨declares, before, after, split, first⟩ := decides.exists_split
    exact binding_of_first search wfs split first declares
  · have none : ∀ x ∈ allDeclarators lists, ¬ x.Declares name := by
      intro x hx
      obtain ⟨L, hL, hx⟩ := mem_allDeclarators.1 hx
      exact silent L hL x hx
    rw [binding_of_none search wfs none]
    constructor
    · intro listed
      rcases returnsUnless_items_body (r := root n) wf with ⟨es, items, -⟩ | ⟨_, ⟨-, held⟩, -⟩
      · rw [items]
        rfl
      · exact absurd held listed
    · rintro ⟨b, hb⟩
      rw [hb]
      rfl
  · exact not_singleBody_of_kind (r := root n) wf (Conversion.kind_of_program converted program)
  · intro source' tree' n' s'? inner outer inner' outer' converted' hs' split above' same declared
    rw [binding_eq_getD n']
    exact binding_of_equal_nodes wf (Conversion.convert_wellFormed converted') (start hs)
      (start hs') (split ▸ above) above' same declared

/-- The source `var a=1;{var a=b as c;d}`. -/
def shadowedSource : SourceText := .ofString "var a=1;{var a=b as c;d}"

/-- The concrete tree of `shadowedSource`. -/
def shadowedTree : Concrete :=
  .mk ⟨true, "program", "", ⟨0, 24⟩⟩ [
    .mk ⟨true, "variable_declaration", "", ⟨0, 8⟩⟩ [
      .mk ⟨true, "variable_declarator", "", ⟨4, 7⟩⟩ [
        .mk ⟨true, "identifier", "name", ⟨4, 5⟩⟩ [],
        .mk ⟨true, "number", "value", ⟨6, 7⟩⟩ []]],
    .mk ⟨true, "statement_block", "", ⟨8, 24⟩⟩ [
      .mk ⟨true, "variable_declaration", "", ⟨9, 22⟩⟩ [
        .mk ⟨true, "variable_declarator", "", ⟨13, 21⟩⟩ [
          .mk ⟨true, "identifier", "name", ⟨13, 14⟩⟩ [],
          .mk ⟨true, "as_expression", "value", ⟨15, 21⟩⟩ [
            .mk ⟨true, "identifier", "", ⟨15, 16⟩⟩ [],
            .mk ⟨true, "type_identifier", "", ⟨20, 21⟩⟩ []]]],
      .mk ⟨true, "expression_statement", "", ⟨22, 23⟩⟩ [
        .mk ⟨true, "identifier", "", ⟨22, 23⟩⟩ []]]]

/-- In the block the name `a` stands for the `b` that the inner declaration claims a type of. -/
theorem shadowedTree_binding : ∃ (n : Node) (s v : Site),
    Conversion.convert shadowedSource shadowedTree = .ok n ∧ s ∈ (root n).walk ∧
      s.span = ⟨22, 23⟩ ∧ v.span = ⟨15, 16⟩ ∧
      binding (root n) (.text (.ofString "a")) (some s) = .ok (.node v) := by
  obtain ⟨n, converted⟩ : ∃ n, Conversion.convert shadowedSource shadowedTree = .ok n := ⟨_, rfl⟩
  -- the fields on the way to the statement and to the initializer
  obtain ⟨other, block, inner, s, d, target, w, v, hroot, hblock, hinner, hid, hname, hinit, hv⟩ :
      ∃ other block inner s d target w v, (root n).get "body" = .nodes [other, block] ∧
        block.get "body" = .nodes [inner, s] ∧ inner.get "declarations" = .nodes [d] ∧
        d.get "id" = .node target ∧ target.get "name" = .text (.ofString "a") ∧
        d.get "init" = .node w ∧ w.get "expression" = .node v := by
    cases converted
    exact ⟨_, _, _, _, _, _, _, _, rfl, rfl, rfl, rfl, rfl, rfl, rfl⟩
  have facts : block.kind = "BlockStatement" ∧ inner.kind = "VariableDeclaration" ∧
      s.kind = "ExpressionStatement" ∧ s.get "body" = .null ∧ target.kind = "Identifier" ∧
      w.kind = "TSAsExpression" ∧ s.span = ⟨22, 23⟩ ∧ v.span = ⟨15, 16⟩ := by
    cases converted
    cases hroot
    cases hblock
    cases hinner
    cases hid
    cases hinit
    cases hv
    exact ⟨rfl, rfl, rfl, rfl, rfl, rfl, rfl, rfl⟩
  obtain ⟨kindB, kindI, kindS, bare, identifier, claim, spanS, spanV⟩ := facts
  have inRoot := mem_children_of_get_nodes hroot (.tail _ (.head _))
  have inBlock := mem_children_of_get_nodes hblock (.tail _ (.head _))
  have walk := mem_walk_of_mem_children (mem_walk_of_mem_children (mem_walk_self _) inRoot) inBlock
  have inWalk : ∀ t ∈ some s, t ∈ (root n).walk := by
    rintro _ ⟨⟩
    exact walk
  obtain ⟨lists, above, decided, -⟩ := binding_innermost converted (.ofString "a") inWalk
  have listed : ¬ SingleBody (root n) := by
    rintro ⟨b, hb⟩
    rw [hroot] at hb
    cases hb
  have around : ListsAt s [[inner, s], ((root n).get "body").nodeList] := by
    refine .other (parent?_of_mem_children inBlock) ?_ ?_
      (.body (parent?_of_mem_children inRoot) ?_ hblock (.root rfl listed))
    · rw [kindS]; decide
    · rw [bare]; rintro es ⟨⟩
    · rw [kindB]; decide
  obtain rfl := above.unique around
  have row : [inner, s].flatMap declarators = [] ++ d :: [] := by
    simp [declarators, ownDeclarators, isExport, kindI, kindS, hinner, Slot.nodeList_nodes]
  obtain ⟨u, init, answer⟩ := decided d (.here row (by simp)
    ⟨target, hid, beq_iff_eq.2 identifier, hname⟩)
  refine ⟨n, s, v, converted, walk, spanS, spanV, ?_⟩
  rw [answer]
  cases init with
  | missing bare => rw [hinit] at bare; cases bare
  | claim given => rw [hinit] at given; cases given; rw [hv]
  | plain given plain => rw [hinit] at given; cases given; exact absurd claim plain

/-- The concrete tree of the source `x=>y`, without a program around it. -/
def lambdaTree : Concrete :=
  .mk ⟨true, "arrow_function", "", ⟨0, 4⟩⟩ [
    .mk ⟨true, "identifier", "parameter", ⟨0, 1⟩⟩ [],
    .mk ⟨false, "=>", "", ⟨1, 3⟩⟩ [],
    .mk ⟨true, "identifier", "body", ⟨3, 4⟩⟩ []]

/-- A function without a program around it declares nothing, and no name can be looked up in it. -/
theorem lambdaTree_binding : ∃ n, Conversion.convert (.ofString "x=>y") lambdaTree = .ok n ∧
    (∀ s ∈ (root n).walk, s.declarators = []) ∧
    binding (root n) (.text (.ofString "a")) none = .error .notAList := by
  obtain ⟨n, converted⟩ : ∃ n, Conversion.convert (.ofString "x=>y") lambdaTree = .ok n := ⟨_, rfl⟩
  obtain ⟨body, hb⟩ : ∃ body, (root n).get "body" = .node body := by
    cases converted
    exact ⟨_, rfl⟩
  have none : (Conversion.convert (.ofString "x=>y") lambdaTree).toOption.map
      (fun m => (root m).walk.all fun s => s.declarators.isEmpty) = some true := by
    decide +kernel
  rw [converted] at none
  refine ⟨n, converted, fun s hs => ?_, ?_⟩
  · exact List.isEmpty_iff.1 (List.all_eq_true.1 (Option.some.inj none) s hs)
  · show (firstAnswer _ [(root n).get "body"] >>= _) = _
    rw [hb]
    rfl

end Site

end PropOrder
