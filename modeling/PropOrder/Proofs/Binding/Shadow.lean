import PropOrder.Proofs.Binding.Nearest

/-!
# Names bound outside of statement lists

A name is declared in lists of statements, and it is bound by the parameters of functions, by the
parameter of a handler and by the declarations in the head of a loop (`Binds`). The search for a
declaration looks into the lists only. On the way up from a site, the first site that says what a
name stands for (`SettledBy`) may hold statements that declare the name: then the search gives what
the first such declarator binds the name to. Or it binds the name itself: then the search passes
over it and gives what the name stands for outside of it (`binding_settled`).
-/

namespace PropOrder

namespace Site
variable {source : SourceText} {n : Node} {s t d : Site} {name : Text}

/-! ### What a site says about a name -/

/-- The statements that a site holds: those of a case, or the list that is the body of any other
site. -/
def heldStatements (s : Site) : List Site :=
  if s.kind = "SwitchCase" ∧ s.isRoot = false then (s.get "consequent").nodeList
  else match s.get "body" with
    | .many _ => (s.get "body").nodeList
    | .one _ => []

/-- The declarators of the statements that a site holds. -/
def heldDeclarators (s : Site) : List Site := s.heldStatements.flatMap declarators

/-- A site is the identifier of a name. -/
def Spells (name : Text) (s : Site) : Prop :=
  s.isIdentifier = true ∧ s.get "name" = .text name

/-- The loops and the fields for the declaration in their head. -/
def loopHeads : List (String × String) :=
  [("ForStatement", "init"), ("ForInStatement", "left"), ("ForOfStatement", "left")]

/-- A site binds a name itself, in no list of statements. -/
inductive Binds (name : Text) (s : Site) : Prop
  /-- A function by a parameter. -/
  | parameter {p : Site} (function : s.isFunctionLike = true)
    (param : p ∈ (s.get "params").nodeList) (spelled : p.Spells name) : Binds name s
  /-- A function by a parameter with a default. -/
  | default {p t : Site} (function : s.isFunctionLike = true)
    (param : p ∈ (s.get "params").nodeList) (kind : p.kind = "AssignmentPattern")
    (left : p.get "left" = .node t) (spelled : t.Spells name) : Binds name s
  /-- A handler by its parameter. -/
  | handler {t : Site} (kind : s.kind = "CatchClause") (param : s.get "param" = .node t)
    (spelled : t.Spells name) : Binds name s
  /-- A loop by a declaration in its head. -/
  | loop {field : String} {declaration d : Site} (kind : (s.kind, field) ∈ loopHeads)
    (head : s.get field = .node declaration) (mem : d ∈ declaration.ownDeclarators)
    (declares : d.Declares name) : Binds name s

/-- The kinds of nodes that bind names. -/
def binderKinds : List String :=
  ["FunctionDeclaration", "FunctionExpression", "ArrowFunctionExpression", "CatchClause",
    "ForStatement", "ForInStatement", "ForOfStatement"]

theorem Binds.kind_mem (h : s.Binds name) : s.kind ∈ binderKinds := by
  have ofFunction : s.isFunctionLike = true → s.kind ∈ binderKinds := by
    intro function
    simp only [isFunctionLike, Bool.or_eq_true, beq_iff_eq] at function
    simp only [binderKinds, List.mem_cons]
    tauto
  cases h with
  | parameter function => exact ofFunction function
  | default function => exact ofFunction function
  | handler kind => simp [kind, binderKinds]
  | loop kind =>
    simp only [loopHeads, List.mem_cons, Prod.mk.injEq, List.not_mem_nil, or_false] at kind
    simp only [binderKinds, List.mem_cons]
    tauto

/-- A site says what a name stands for, in a statement that it holds or by binding the name. -/
def Settles (name : Text) (s : Site) : Prop :=
  (∃ d ∈ s.heldDeclarators, d.Declares name) ∨ s.Binds name

/-- The first site on the way up from a site that says what a name stands for. -/
def SettledBy (name : Text) (s t : Site) : Prop :=
  ∃ front back, s.lineage = front ++ t :: back ∧ (∀ x ∈ front, ¬ x.Settles name) ∧ t.Settles name

/-- A site that says nothing about a name has no declarator of it. -/
theorem not_declares_of_not_settles (h : ¬ s.Settles name) :
    ∀ d ∈ s.heldDeclarators, ¬ d.Declares name :=
  fun d hd declares => h (.inl ⟨d, hd, declares⟩)

/-- Going up, the name is settled somewhere or nowhere. -/
theorem settledBy_or_not (name : Text) (s : Site) :
    (∃ t, SettledBy name s t) ∨ ∀ t ∈ s.lineage, ¬ t.Settles name := by
  by_cases h : ∃ t ∈ s.lineage, t.Settles name
  · obtain ⟨front, t, back, split, silent, settles⟩ := exists_first h
    exact .inl ⟨t, front, back, split, silent, settles⟩
  · exact .inr (by simpa using h)

/-! ### The search goes up the lists only -/

theorem isRoot_eq (s : Site) : s.isRoot = s.parent?.isNone := by
  obtain ⟨m, _ | ⟨c, crumbs⟩⟩ := s <;> rfl

/-- The lists around a site are those that are held on the way up. -/
theorem ListsAt.allDeclarators_eq {lists : List (List Site)} (h : ListsAt s lists) :
    allDeclarators lists = s.lineage.flatMap heldDeclarators := by
  induction h with
  | @case s p lists parent kind rest ih =>
    have own : s.heldStatements = (s.get "consequent").nodeList :=
      if_pos ⟨kind, by rw [isRoot_eq, parent]; rfl⟩
    rw [allDeclarators_cons, ih, lineage_cons s, parent, List.flatMap_cons, heldDeclarators, own]
    rfl
  | @body s p lists statements parent kind held rest ih =>
    have own : s.heldStatements = statements := by
      rw [heldStatements, if_neg fun both => kind both.1, held, Slot.nodeList_nodes]
    rw [allDeclarators_cons, ih, lineage_cons s, parent, List.flatMap_cons, heldDeclarators, own]
    rfl
  | @other s p lists parent kind listless rest ih =>
    have own : s.heldStatements = [] := by
      rw [heldStatements, if_neg fun both => kind both.1]
      split
      · next es held => exact absurd held (listless es)
      · rfl
    rw [ih, lineage_cons s, parent, List.flatMap_cons, heldDeclarators, own]
    rfl
  | @root s top listed =>
    have own : s.heldStatements = (s.get "body").nodeList := by
      rw [heldStatements, if_neg (by simp [isRoot_eq, top])]
      -- a single entry that is no node is no statement
      rcases held : s.get "body" with (_ | v | b) | es
      · rfl
      · rfl
      · exact absurd ⟨b, held⟩ listed
      · rfl
    rw [lineage_cons, top, allDeclarators, List.flatten_singleton, List.flatMap_cons,
      heldDeclarators, own]
    exact (List.append_nil _).symm
  | @single s top held =>
    obtain ⟨b, held⟩ := held
    have own : s.heldStatements = [] := by
      rw [heldStatements, if_neg (by simp [isRoot_eq, top]), held]
    rw [lineage_cons, top, List.flatMap_cons, heldDeclarators, own]
    rfl

/-- Declarators of other names in front of the others do not matter to the search. -/
theorem firstAnswer_of_silent {silent : List Site}
    (wf : ∀ x ∈ silent, x.node.WellFormed source) (other : ∀ x ∈ silent, ¬ x.Declares name)
    (rest : List Site) :
    firstAnswer (bindingOfDeclarator (.text name)) ((silent ++ rest).map .node) =
      firstAnswer (bindingOfDeclarator (.text name)) (rest.map .node) := by
  have none : firstAnswer (bindingOfDeclarator (.text name)) (silent.map .node) = .ok none := by
    refine firstAnswer_eq_none fun e he => ?_
    obtain ⟨x, hx, rfl⟩ := List.mem_map.1 he
    exact bindingOfDeclarator_of_not_declares (wf x hx) (other x hx)
  rw [List.map_append, firstAnswer_append, none]
  rfl

/-- A declarator that is held on the way up is a site of the program. -/
theorem wellFormed_of_mem_heldDeclarators (wf : n.WellFormed source) (hs : s ∈ (root n).walk) :
    ∀ d ∈ s.lineage.flatMap heldDeclarators, d.node.WellFormed source := by
  obtain ⟨lists, above, -⟩ := exists_listsAt wf (.text []) hs
  rw [← above.allDeclarators_eq]
  exact wellFormed_of_mem_allDeclarators wf hs above

/-- The search from a site goes through the declarators that are held on the way up. -/
theorem binding_eq_of_lineage (wf : n.WellFormed source) (hs : s ∈ (root n).walk) :
    binding (root n) (.text name) (some s) =
      firstAnswer (bindingOfDeclarator (.text name))
        ((s.lineage.flatMap heldDeclarators).map .node) >>= fun b? =>
          b?.elim (((root n).get "body").items >>= fun _ => .ok .null) .ok := by
  obtain ⟨lists, above, search⟩ := exists_listsAt wf (.text name) hs
  rw [binding, search, ← above.allDeclarators_eq, unlisted]
  cases firstAnswer (bindingOfDeclarator (.text name)) ((allDeclarators lists).map .node) with
  | error fault => rfl
  | ok b? =>
    cases b? with
    | some b => rfl
    | none => cases ((root n).get "body").items <;> rfl

/-- Where nothing is declared up to a site, the search goes on outside of it. -/
theorem binding_of_silent {front back : List Site} (wf : n.WellFormed source)
    (hs : s ∈ (root n).walk) (split : s.lineage = front ++ t :: back)
    (silent : ∀ x ∈ front, ∀ d ∈ x.heldDeclarators, ¬ d.Declares name)
    (here : ∀ d ∈ t.heldDeclarators, ¬ d.Declares name) :
    binding (root n) (.text name) (some s) = binding (root n) (.text name) t.parent? := by
  have onWay : ∀ x ∈ s.lineage, x ∈ (root n).walk := mem_walk_of_mem_lineage hs
  have ht : t ∈ (root n).walk := onWay t (by simp [split])
  have above : t :: back = t.lineage := lineage_of_lineage_eq_append split
  have wfs := wellFormed_of_mem_heldDeclarators wf hs
  -- the declarators up to `t` are silent, and those behind are held above it
  have outside : binding (root n) (.text name) (some s) =
      firstAnswer (bindingOfDeclarator (.text name)) ((back.flatMap heldDeclarators).map .node) >>=
        fun b? => b?.elim (((root n).get "body").items >>= fun _ => .ok .null) .ok := by
    have row : s.lineage.flatMap heldDeclarators =
        (front.flatMap heldDeclarators ++ t.heldDeclarators) ++ back.flatMap heldDeclarators := by
      rw [split, List.flatMap_append, List.flatMap_cons, List.append_assoc]
    rw [row] at wfs
    rw [binding_eq_of_lineage wf hs, row, firstAnswer_of_silent
      fun x hx => wfs x (List.mem_append_left _ hx)]
    intro x hx
    rcases List.mem_append.1 hx with hx | hx
    · obtain ⟨y, hy, hx⟩ := List.mem_flatMap.1 hx
      exact silent y hy x hx
    · exact here x hx
  rw [lineage_cons] at above
  cases parent : t.parent? with
  | some p =>
    obtain ⟨hp, -⟩ := mem_children_of_parent? ht parent
    have rest : back = p.lineage := by simpa [parent] using above
    rw [outside, binding_eq_of_lineage wf hp, rest]
  | none =>
    have rest : back = [] := by simpa [parent] using above
    obtain rfl : t = root n := by
      rcases eq_or_mem_children ht with rfl | ⟨q, -, hq⟩
      · rfl
      · cases (parent?_of_mem_children hq).symm.trans parent
    have row : (root n).lineage.flatMap heldDeclarators = (root n).heldDeclarators ++ [] := rfl
    have wfr := wellFormed_of_mem_heldDeclarators wf (mem_walk_self (root n))
    rw [row, List.append_nil] at wfr
    rw [outside, rest, binding_eq_getD]
    show _ = binding (root n) (.text name) (some (root n))
    rw [binding_eq_of_lineage wf (mem_walk_self _), row, firstAnswer_of_silent wfr here]
    rfl

/-! ### What a name stands for -/

/-- **A name is looked up past what binds it outside of statement lists.** In every program that is
converted, take the first site on the way up from a given one that says what a name stands for. If
it holds statements that declare the name, the name stands for what the first such declarator binds
it to, and nothing in between binds the name. If it binds the name itself, the name stands for what
it stands for outside of that site. If there is no such site, the name stands for nothing, or it
cannot be looked up where the root holds a single node in the place of its statements. -/
theorem binding_settled {tree : Concrete} (converted : Conversion.convert source tree = .ok n)
    (name : Text) (hs : s ∈ (root n).walk) :
    ((∃ t, SettledBy name s t) ∨ ∀ t ∈ s.lineage, ¬ t.Settles name) ∧
    (∀ t, SettledBy name s t → (∃ d ∈ t.heldDeclarators, d.Declares name) →
      ∃ before d after v, t.heldDeclarators = before ++ d :: after ∧
        (∀ x ∈ before, ¬ x.Declares name) ∧ d.Declares name ∧ d.Initializer v ∧
        binding (root n) (.text name) (some s) = .ok v) ∧
    (∀ t, SettledBy name s t → (∀ d ∈ t.heldDeclarators, ¬ d.Declares name) → t.Binds name ∧
      binding (root n) (.text name) (some s) = binding (root n) (.text name) t.parent?) ∧
    ((∀ t ∈ s.lineage, ¬ t.Settles name) →
      (¬ SingleBody (root n) → binding (root n) (.text name) (some s) = .ok .null) ∧
      (SingleBody (root n) → binding (root n) (.text name) (some s) = .error .notAList)) := by
  have wf := Conversion.convert_wellFormed converted
  have wfs := wellFormed_of_mem_heldDeclarators wf hs
  refine ⟨settledBy_or_not name s, ?_, ?_, ?_⟩
  · rintro t ⟨front, back, split, silent, -⟩ declared
    obtain ⟨before, d, after, own, first, declares⟩ := exists_first declared
    obtain ⟨lists, above, search⟩ := exists_listsAt wf (.text name) hs
    have row : allDeclarators lists = (front.flatMap heldDeclarators ++ before) ++
        d :: (after ++ back.flatMap heldDeclarators) := by
      rw [above.allDeclarators_eq, split, List.flatMap_append, List.flatMap_cons, own]
      simp
    have other : ∀ x ∈ front.flatMap heldDeclarators ++ before, ¬ x.Declares name := by
      intro x hx
      rcases List.mem_append.1 hx with hx | hx
      · obtain ⟨y, hy, hx⟩ := List.mem_flatMap.1 hx
        exact not_declares_of_not_settles (silent y hy) x hx
      · exact first x hx
    obtain ⟨v, init, answer⟩ := binding_of_first search
      (wellFormed_of_mem_allDeclarators wf hs above) row other declares
    exact ⟨before, d, after, v, own, first, declares, init, answer⟩
  · rintro t ⟨front, back, split, silent, settles⟩ here
    refine ⟨settles.resolve_left fun ⟨d, hd, declares⟩ => here d hd declares, ?_⟩
    exact binding_of_silent wf hs split
      (fun x hx => not_declares_of_not_settles (silent x hx)) here
  · intro nowhere
    have none : ∀ x ∈ s.lineage.flatMap heldDeclarators, ¬ x.Declares name := by
      intro x hx
      obtain ⟨y, hy, hx⟩ := List.mem_flatMap.1 hx
      exact not_declares_of_not_settles (nowhere y hy) x hx
    have silent := firstAnswer_of_silent wfs none []
    rw [List.append_nil] at silent
    rw [binding_eq_of_lineage wf hs, silent]
    constructor
    · intro listed
      rcases returnsUnless_items_body (r := root n) wf with ⟨es, items, -⟩ | ⟨_, ⟨-, held⟩, -⟩
      · rw [items]
        rfl
      · exact absurd held listed
    · rintro ⟨b, hb⟩
      rw [hb]
      rfl

/-- The source `const x={a:1};for(const x of y)x;`. -/
def loopSource : SourceText := .ofString "const x=\x7ba:1\x7d;for(const x of y)x;"

/-- The concrete tree of `loopSource`. -/
def loopTree : Concrete :=
  .mk ⟨true, "program", "", ⟨0, 33⟩⟩ [
    .mk ⟨true, "lexical_declaration", "", ⟨0, 14⟩⟩ [
      .mk ⟨false, "const", "kind", ⟨0, 5⟩⟩ [],
      .mk ⟨true, "variable_declarator", "", ⟨6, 13⟩⟩ [
        .mk ⟨true, "identifier", "name", ⟨6, 7⟩⟩ [],
        .mk ⟨true, "object", "value", ⟨8, 13⟩⟩ [
          .mk ⟨true, "pair", "", ⟨9, 12⟩⟩ [
            .mk ⟨true, "property_identifier", "key", ⟨9, 10⟩⟩ [],
            .mk ⟨true, "number", "value", ⟨11, 12⟩⟩ []]]]],
    .mk ⟨true, "for_in_statement", "", ⟨14, 33⟩⟩ [
      .mk ⟨false, "const", "kind", ⟨18, 23⟩⟩ [],
      .mk ⟨true, "identifier", "left", ⟨24, 25⟩⟩ [],
      .mk ⟨false, "of", "operator", ⟨26, 28⟩⟩ [],
      .mk ⟨true, "identifier", "right", ⟨29, 30⟩⟩ [],
      .mk ⟨true, "expression_statement", "body", ⟨31, 33⟩⟩ [
        .mk ⟨true, "identifier", "", ⟨31, 32⟩⟩ []]]]

/-- The name `x` of `loopSource`. -/
def loopName : Text := .ofString "x"

/-- The sites of `loopSource` that its name `x` is about: the name in the body of the loop, the
statement and the loop around it, the declarator in the program and its initializer. -/
structure LoopSites (n : Node) (s statement loop d v : Site) : Prop where
  converted : Conversion.convert loopSource loopTree = .ok n
  lineage : s.lineage = [s, statement, loop, root n]
  walk : s ∈ (root n).walk
  listed : loop ∈ (root n).heldStatements
  binds : loop.Binds loopName
  silent : ¬ s.Settles loopName ∧ ¬ statement.Settles loopName ∧ loop.heldDeclarators = []
  outer : d ∈ (root n).heldDeclarators
  initializer : d.Initializer (.node v)

theorem exists_loopSites : ∃ n s statement loop d v, LoopSites n s statement loop d v ∧
    binding (root n) (.text loopName) (some s) = .ok (.node v) := by
  obtain ⟨n, converted⟩ : ∃ n, Conversion.convert loopSource loopTree = .ok n := ⟨_, rfl⟩
  -- the fields on the way to the two declarators and to the name in the body
  obtain ⟨outer, loop, d, v, head, h, t, statement, s, hroot, hd, hv, hhead, hh, ht, hst, hs⟩ :
      ∃ outer loop d v head h t statement s, (root n).get "body" = .nodes [outer, loop] ∧
        outer.get "declarations" = .nodes [d] ∧ d.get "init" = .node v ∧
        loop.get "left" = .node head ∧ head.get "declarations" = .nodes [h] ∧
        h.get "id" = .node t ∧ loop.get "body" = .node statement ∧
        statement.get "expression" = .node s := by
    cases converted
    exact ⟨_, _, _, _, _, _, _, _, _, rfl, rfl, rfl, rfl, rfl, rfl, rfl, rfl⟩
  have facts : outer.kind = "VariableDeclaration" ∧ v.kind = "ObjectExpression" ∧
      loop.kind = "ForOfStatement" ∧ head.kind = "VariableDeclaration" ∧ t.kind = "Identifier" ∧
      t.get "name" = .text loopName ∧ statement.kind = "ExpressionStatement" ∧
      s.kind = "Identifier" ∧ s.heldDeclarators = [] ∧ statement.heldDeclarators = [] ∧
      loop.heldDeclarators = [] ∧ s.lineage = [s, statement, loop, root n] ∧
      binding (root n) (.text loopName) (some s) = .ok (.node v) := by
    cases converted
    cases hroot
    cases hd
    cases hv
    cases hhead
    cases hh
    cases ht
    cases hst
    cases hs
    exact ⟨rfl, rfl, rfl, rfl, rfl, rfl, rfl, rfl, rfl, rfl, rfl, rfl, rfl⟩
  obtain ⟨kindO, kindV, kindL, kindH, kindT, named, kindSt, kindS, bareS, bareSt, bareL, lineage,
    answer⟩ := facts
  have listed : (root n).heldStatements = [outer, loop] := by
    rw [heldStatements, if_neg (by rintro ⟨-, inner⟩; cases inner), hroot]
    exact Slot.nodeList_nodes _
  have declarator : h ∈ head.ownDeclarators := by
    rw [ownDeclarators, if_pos kindH, hh, Slot.nodeList_nodes]
    exact List.mem_singleton_self h
  have quiet : ∀ x : Site, x.heldDeclarators = [] → x.kind ∉ binderKinds →
      ¬ x.Settles loopName := by
    rintro x bare plain (⟨y, hy, -⟩ | binds)
    · rw [bare] at hy
      cases hy
    · exact plain binds.kind_mem
  have inBody : loop ∈ ((root n).get "body").nodeList := by
    rw [hroot, Slot.nodeList_nodes]
    exact .tail _ (.head _)
  refine ⟨n, s, statement, loop, d, v, ⟨converted, lineage, ?_, ?_, ?_, ⟨?_, ?_, bareL⟩, ?_, ?_⟩,
    answer⟩
  · have inLoop := mem_walk_of_mem_children (mem_walk_self _) (mem_of_get_nodeList inBody)
    exact mem_walk_of_get (mem_walk_of_get inLoop hst) hs
  · rw [listed]
    exact .tail _ (.head _)
  · refine .loop ?_ hhead declarator ⟨t, ht, beq_iff_eq.2 kindT, named⟩
    rw [kindL]
    decide
  · exact quiet s bareS (by rw [kindS]; decide)
  · exact quiet statement bareSt (by rw [kindSt]; decide)
  · rw [heldDeclarators, listed, List.flatMap_cons]
    refine List.mem_append_left _ ?_
    rw [declarators, if_neg (by rw [isExport, kindO]; decide), ownDeclarators, if_pos kindO, hd,
      Slot.nodeList_nodes]
    exact List.mem_singleton_self d
  · refine .plain hv ?_
    rw [kindV]
    decide

/-- In the body of the loop the name is settled by the loop, and looked up outside of it. -/
theorem loopTree_passedOver : ∃ (n : Node) (s loop : Site),
    Conversion.convert loopSource loopTree = .ok n ∧ s ∈ (root n).walk ∧
      SettledBy loopName s loop ∧ loop.Binds loopName ∧
      binding (root n) (.text loopName) (some s) =
        binding (root n) (.text loopName) loop.parent? := by
  obtain ⟨n, s, statement, loop, d, v, sites, -⟩ := exists_loopSites
  obtain ⟨quiet, quietStatement, bare⟩ := sites.silent
  have settled : SettledBy loopName s loop :=
    ⟨[s, statement], [root n], sites.lineage, by simp [quiet, quietStatement], .inr sites.binds⟩
  obtain ⟨-, -, passed, -⟩ := binding_settled sites.converted loopName sites.walk
  obtain ⟨binds, same⟩ := passed loop settled (by simp [bare])
  exact ⟨n, s, loop, sites.converted, sites.walk, settled, binds, same⟩

/-- The name in the body of the loop stands for the initializer of the declaration in the program,
although the loop, which is a statement of the program around the name, declares the name in its
head. -/
theorem loopTree_unshadowed : ∃ (n : Node) (s loop d v : Site),
    Conversion.convert loopSource loopTree = .ok n ∧ s ∈ (root n).walk ∧
      d ∈ (root n).heldDeclarators ∧ d.Initializer (.node v) ∧
      binding (root n) (.text loopName) (some s) = .ok (.node v) ∧
      loop ∈ s.lineage ∧ loop ∈ (root n).heldStatements ∧ loop.Binds loopName := by
  obtain ⟨n, s, statement, loop, d, v, sites, answer⟩ := exists_loopSites
  have around : loop ∈ s.lineage := by
    rw [sites.lineage]
    exact .tail _ (.tail _ (.head _))
  exact ⟨n, s, loop, d, v, sites.converted, sites.walk, sites.outer, sites.initializer, answer,
    around, sites.listed, sites.binds⟩

end Site

end PropOrder
