import PropOrder.Proofs.Component
import PropOrder.Proofs.Inspection.Route
import PropOrder.Proofs.Keys

/-!
# What the steps of the inspection check

What an inspection finds at a node is what the check of the order finds in the lists that the routes
of `ChecksAt` lead to, one after the other, each of them and no others. `Checks` says so of a
reading, and each step of the inspection has it: the search behind names and wrapper functions, the
search for the types of props, and the visit of every sort of node.

The only other thing that can happen is that a name cannot be looked up, in a tree whose root holds
a single node in the place of its statements.
-/

namespace PropOrder

namespace Inspection
open Site
variable {i : Inspection} {m : Except Fault (List Diagnostic)} {P Q : Value → Prop}

/-! ### Checking lists one after the other -/

/-- What is found in several declaration lists. -/
def checkLists (i : Inspection) (lists : List Value) : Except Fault (List Diagnostic) := do
  return (← lists.mapM i.checkList).flatten

/-- A reading checks the lists that have a property, all of them and no others. Where the root of
the program holds a single node in the place of its statements, it may break off after some of
them. -/
def Checks (i : Inspection) (m : Except Fault (List Diagnostic)) (P : Value → Prop) : Prop :=
  (∃ lists, (∀ L, L ∈ lists ↔ P L) ∧ m = i.checkLists lists) ∨
    (SingleBody i.program ∧ ∃ lists, (∀ L ∈ lists, P L) ∧
      m = (i.checkLists lists >>= fun _ => .error .notAList))

theorem Checks.congr (h : i.Checks m P) (same : ∀ L, P L ↔ Q L) : i.Checks m Q := by
  obtain rfl : P = Q := funext fun L => propext (same L)
  exact h

theorem checks_nil (none : ∀ L, ¬ P L) : i.Checks (.ok []) P :=
  .inl ⟨[], by simpa using none, rfl⟩

/-- A reading that is done on a condition. -/
theorem Checks.guard {b : Bool} {C : Prop} (hb : b = true ↔ C) (h : C → i.Checks m P) :
    i.Checks (if b then m else .ok []) fun L => C ∧ P L := by
  cases b with
  | true => exact (h (hb.1 rfl)).congr fun L => by simp [← hb]
  | false => exact checks_nil fun L hL => by simp [← hb] at hL

theorem checkLists_cons (L : Value) (lists : List Value) : i.checkLists (L :: lists) = do
    let a ← i.checkList L
    let b ← i.checkLists lists
    return a ++ b :=
  mapM_flatten_cons L lists

theorem checkLists_append (l₁ l₂ : List Value) : i.checkLists (l₁ ++ l₂) = do
    let a ← i.checkLists l₁
    let b ← i.checkLists l₂
    return a ++ b :=
  mapM_flatten_append l₁ l₂

theorem checks_list {L : Value} (one : ∀ M, P M ↔ M = L) : i.Checks (i.checkList L) P := by
  refine .inl ⟨[L], fun M => by rw [List.mem_singleton, one], ?_⟩
  rw [checkLists_cons]
  cases i.checkList L with
  | error fault => rfl
  | ok found => exact congrArg Except.ok (List.append_nil found).symm

theorem checks_bind {α : Type} {R : α → Prop} {r : Except Fault α}
    {k : α → Except Fault (List Diagnostic)}
    (h : ReturnsUnless (BodyFault i.program) r R)
    (hk : ∀ a, r = .ok a → R a → i.Checks (k a) P) : i.Checks (r >>= k) P := by
  rcases h with ⟨a, rfl, ha⟩ | ⟨_, ⟨rfl, single⟩, rfl⟩
  · exact hk a rfl ha
  · exact .inr ⟨single, [], by simp, rfl⟩

/-- Two readings, one after the other. -/
theorem Checks.append {n : Except Fault (List Diagnostic)} (hm : i.Checks m P)
    (hn : i.Checks n Q) :
    i.Checks (do let a ← m; let b ← n; return a ++ b) fun L => P L ∨ Q L := by
  rcases hm with ⟨l₁, h₁, rfl⟩ | ⟨single, l₁, h₁, rfl⟩
  · rcases hn with ⟨l₂, h₂, rfl⟩ | ⟨single, l₂, h₂, rfl⟩
    · exact .inl ⟨l₁ ++ l₂, by simp [h₁, h₂], (checkLists_append l₁ l₂).symm⟩
    · refine .inr ⟨single, l₁ ++ l₂, ?_, ?_⟩
      · intro L hL
        exact (List.mem_append.1 hL).imp (h₁ L).1 (h₂ L)
      · rw [checkLists_append]
        cases i.checkLists l₁ with
        | error fault => rfl
        | ok a => cases i.checkLists l₂ <;> rfl
  · refine .inr ⟨single, l₁, fun L hL => .inl (h₁ L hL), ?_⟩
    cases i.checkLists l₁ <;> rfl

/-- What is read for each item of a list checks the lists of all items. -/
theorem checks_mapM {α : Type} {f : α → Except Fault (List Diagnostic)} {l : List α}
    {R : α → Value → Prop} (h : ∀ a ∈ l, i.Checks (f a) (R a)) :
    i.Checks (do return (← l.mapM f).flatten) fun L => ∃ a ∈ l, R a L := by
  induction l with
  | nil => exact checks_nil (by simp)
  | cons a l ih =>
    rw [mapM_flatten_cons]
    have rest := ih fun a ha => h a (List.mem_cons_of_mem _ ha)
    exact ((h a (List.mem_cons_self ..)).append rest).congr (by simp)

/-- A step that looks at the site in a value checks what it checks for the site, if there is
one. -/
theorem checks_bind_site {v : Value} {k : Option Site → Except Fault (List Diagnostic)}
    {R : Site → Value → Prop} (hv : InWalk i.program v) (absent : k none = .ok [])
    (present : ∀ c ∈ i.program.walk, i.Checks (k (some c)) (R c)) :
    i.Checks (v.site? >>= k) fun L => ∃ c, v = .node c ∧ R c L := by
  rcases hv with rfl | ⟨c, hc, rfl⟩
  · rw [show Value.site? .null = .ok none from rfl, ok_bind, absent]
    exact checks_nil (by simp)
  · exact (present c hc).congr (by simp)

/-- A list that the site in a value holds. -/
theorem checks_held {v : Value} (hv : InWalk i.program v) (name : String) :
    i.Checks (do
      match ← v.site? with
      | some c => i.checkList (c.get name)
      | none => return []) fun L => ∃ c, v = .node c ∧ L = c.get name :=
  checks_bind_site hv rfl fun _ _ => checks_list fun _ => Iff.rfl

/-- Whatever is found in several lists is found in one of them. -/
theorem mem_checkLists {lists : List Value} {found : List Diagnostic}
    (h : i.checkLists lists = .ok found) :
    ∀ d ∈ found, ∃ L ∈ lists, Returns (i.checkList L) fun ds => d ∈ ds := by
  intro d hd
  obtain ⟨answers, ha, hfound⟩ := bind_eq_ok_iff.1 h
  obtain rfl := Except.ok.inj hfound
  obtain ⟨ds, hds, hd⟩ := List.mem_flatten.1 hd
  obtain ⟨L, hL, hcheck⟩ := exists_of_mem_mapM ha hds
  exact ⟨L, hL, ds, hcheck, hd⟩

/-- Whatever such a reading finds is found in one of the lists. -/
theorem Checks.exists_list {found : List Diagnostic} (h : i.Checks m P) (hm : m = .ok found) :
    ∀ d ∈ found, ∃ L, P L ∧ Returns (i.checkList L) fun ds => d ∈ ds := by
  rcases h with ⟨lists, hlists, rfl⟩ | ⟨-, lists, -, rfl⟩
  · intro d hd
    obtain ⟨L, hL, found⟩ := mem_checkLists hm d hd
    exact ⟨L, (hlists L).1 hL, found⟩
  · obtain ⟨_, -, absurd⟩ := bind_eq_ok_iff.1 hm
    cases absurd

/-- If such a reading finds nothing, nothing is found in any of the lists. -/
theorem Checks.silent (h : i.Checks m P) (hm : m = .ok []) :
    ∀ L, P L → i.checkList L = .ok [] := by
  rcases h with ⟨lists, hlists, rfl⟩ | ⟨-, lists, -, rfl⟩
  · intro L hL
    obtain ⟨answers, ha, hfound⟩ := bind_eq_ok_iff.1 hm
    have empty := List.flatten_eq_nil_iff.1 (Except.ok.inj hfound)
    obtain ⟨answer, mem, hanswer⟩ := exists_answer_of_mem ha ((hlists L).2 hL)
    rw [hanswer, empty answer mem]
  · obtain ⟨_, -, absurd⟩ := bind_eq_ok_iff.1 hm
    cases absurd

/-! ### Steps of the inspection -/

/-- An inspection of a whole program that is well formed. -/
structure OfWellFormed (i : Inspection) (source : SourceText) : Prop where
  top : i.program = root i.program.node
  wf : i.program.node.WellFormed source

section Routes
variable {source : SourceText} {s : Site} (h : i.OfWellFormed source)
include h

theorem OfWellFormed.wellFormed (hs : s ∈ i.program.walk) : s.node.WellFormed source :=
  wellFormed_of_mem_walk h.wf s hs

/-- A site with a parent stands below the root. -/
theorem OfWellFormed.mem_walk_parent {p : Site} (hs : s ∈ i.program.walk)
    (hp : s.parent? = some p) : p ∈ i.program.walk := by
  have hs' : s ∈ (root i.program.node).walk := by rw [← h.top]; exact hs
  have hpw := (mem_children_of_parent? hs' hp).1
  rwa [← h.top] at hpw

theorem checks_checkVariable (hs : s ∈ i.program.walk) : i.Checks (i.checkVariable s)
    fun L => ∃ o, StandsFor i.program s o ∧ L = o.get "properties" := by
  refine checks_bind (returnsUnless_binding h.top h.wf (s.get "name") hs) fun v bound hv => ?_
  rcases hv with rfl | ⟨o, -, rfl⟩
  · refine checks_nil ?_
    rintro L ⟨o, stands, -⟩
    cases bound.symm.trans stands
  · refine checks_list fun M => ⟨?_, fun hM => ⟨o, bound, hM⟩⟩
    rintro ⟨o', stands, rfl⟩
    obtain rfl : o = o' := by simpa using bound.symm.trans stands
    rfl

/-! ### Expressions -/

/-- Where an expression without its type claim leads to. -/
def Leads (program : Site) (wrappers : List Wrapper) (u o : Site) : Prop :=
  (u.kind = "ObjectExpression" ∧ o = u) ∨ (u.kind = "Identifier" ∧ StandsFor program u o) ∨
    ∃ c, Wraps wrappers u c ∧ LeadsTo program wrappers c o

omit h in
theorem leadsTo_iff {o : Site} : LeadsTo i.program i.wrappers s o ↔
    ∃ u, s.unwrapClaim = .node u ∧ Leads i.program i.wrappers u o := by
  constructor
  · intro leads
    cases leads with
    | object inside kind => exact ⟨_, inside, .inl ⟨kind, rfl⟩⟩
    | name inside kind bound => exact ⟨_, inside, .inr (.inl ⟨kind, bound⟩)⟩
    | wrapper inside wraps rest => exact ⟨_, inside, .inr (.inr ⟨_, wraps, rest⟩)⟩
  · rintro ⟨u, inside, ⟨kind, rfl⟩ | ⟨kind, bound⟩ | ⟨c, wraps, rest⟩⟩
    · exact .object inside kind
    · exact .name inside kind bound
    · exact .wrapper inside wraps rest

/-- A callee is a wrapper function if its name is that of one. -/
theorem returns_isWrapper (hs : s ∈ i.program.walk) : Returns (i.isWrapper (s.get "callee"))
    fun b => b = true ↔ ∃ name, calleeName? (s.get "callee") = .ok (.text name) ∧
      Wrapper.recognizes i.wrappers name = true := by
  obtain ⟨name, hname, -⟩ := succeeds_calleeName?_get (h.wellFormed hs)
    (show nodeField "callee" = true from rfl)
  rw [isWrapper, hname]
  refine ⟨_, rfl, ?_⟩
  constructor
  · intro known
    obtain ⟨t, ht, recognized⟩ := (Option.any_eq_true _ _).1 known
    exact ⟨t, congrArg Except.ok (Slot.eq_text_of_text? ht), recognized⟩
  · rintro ⟨t, ht, recognized⟩
    rw [Except.ok.inj ht]
    exact recognized

theorem checks_checkUnwrapped (hs : s ∈ i.program.walk)
    (ih : ∀ c ∈ s.children, i.Checks (i.checkExpression c)
      fun L => ∃ o, LeadsTo i.program i.wrappers c o ∧ L = o.get "properties") :
    i.Checks (i.checkUnwrapped s)
      fun L => ∃ o, Leads i.program i.wrappers s o ∧ L = o.get "properties" := by
  unfold checkUnwrapped
  split
  · next object =>
    have kind : s.kind = "ObjectExpression" := eq_of_beq object
    refine checks_list fun M => ⟨?_, fun hM => ⟨s, .inl ⟨kind, rfl⟩, hM⟩⟩
    rintro ⟨o, ⟨-, rfl⟩ | ⟨other, -⟩ | ⟨c, wraps, -⟩, rfl⟩
    · rfl
    · exact absurd (kind.symm.trans other) (by decide)
    · exact absurd (kind.symm.trans wraps.kind) (by decide)
  split
  · next identifier =>
    have kind : s.kind = "Identifier" := eq_of_beq identifier
    have leads : ∀ o, Leads i.program i.wrappers s o ↔ StandsFor i.program s o := fun o => by
      refine ⟨?_, fun bound => .inr (.inl ⟨kind, bound⟩)⟩
      rintro (⟨other, -⟩ | ⟨-, bound⟩ | ⟨c, wraps, -⟩)
      · exact absurd (kind.symm.trans other) (by decide)
      · exact bound
      · exact absurd (kind.symm.trans wraps.kind) (by decide)
    exact (checks_checkVariable h hs).congr fun L => by simp only [leads]
  split
  · next call =>
    have kind : s.kind = "CallExpression" := eq_of_beq call
    have leads : ∀ o, Leads i.program i.wrappers s o ↔
        ∃ c, Wraps i.wrappers s c ∧ LeadsTo i.program i.wrappers c o := by
      simp [Leads, kind]
    simp only [leads]
    rw [first_listField (h.wellFormed hs) rfl, ok_bind]
    cases first : (s.get "arguments").nodeList.head? with
    | none =>
      refine checks_nil ?_
      rintro L ⟨o, ⟨c, wraps, -⟩, -⟩
      cases first.symm.trans wraps.first
    | some c =>
      have mem : c ∈ s.children := mem_of_get_nodeList (List.mem_of_mem_head? first)
      obtain ⟨wrapper, hwrapper, known⟩ := returns_isWrapper h hs
      show i.Checks (do
        if ← i.isWrapper (s.get "callee") then i.checkExpression? (.node c) else return []) _
      rw [hwrapper, ok_bind]
      cases wrapper with
      | true =>
        refine (ih c mem).congr fun L => exists_congr fun o => and_congr_left' ?_
        refine ⟨fun rest => ⟨c, ⟨kind, known.1 rfl, first⟩, rest⟩, ?_⟩
        rintro ⟨c', wraps, rest⟩
        obtain rfl : c = c' := Option.some.inj (first.symm.trans wraps.first)
        exact rest
      | false =>
        refine checks_nil ?_
        rintro L ⟨o, ⟨c', wraps, -⟩, -⟩
        cases known.2 wraps.callee
  · next object identifier call =>
    refine checks_nil ?_
    rintro L ⟨o, ⟨kind, -⟩ | ⟨kind, -⟩ | ⟨c, wraps, -⟩, -⟩
    · exact object (beq_iff_eq.2 kind)
    · exact identifier (beq_iff_eq.2 kind)
    · exact call (beq_iff_eq.2 wraps.kind)

/-- What is found in an expression is found in the objects it leads to, however many wrapper
functions are around them. -/
theorem checks_checkExpression {s : Site} (hs : s ∈ i.program.walk) :
    i.Checks (i.checkExpression s)
      fun L => ∃ o, LeadsTo i.program i.wrappers s o ∧ L = o.get "properties" := by
  have below : ∀ c ∈ s.children, i.Checks (i.checkExpression c)
      fun L => ∃ o, LeadsTo i.program i.wrappers c o ∧ L = o.get "properties" := fun c hc =>
    checks_checkExpression (mem_walk_of_mem_children hs hc)
  -- what a type is claimed of is looked at in one step with the claim
  have further : ∀ c ∈ s.children, ∀ d ∈ c.children, i.Checks (i.checkExpression d)
      fun L => ∃ o, LeadsTo i.program i.wrappers d o ∧ L = o.get "properties" :=
    fun c hc d hd => checks_checkExpression
      (mem_walk_of_mem_children (mem_walk_of_mem_children hs hc) hd)
  simp only [leadsTo_iff (s := s)]
  rw [checkExpression_eq]
  have inside : s.unwrapClaim = .null ∨ s.unwrapClaim = .node s ∨
      ∃ c ∈ s.children, s.unwrapClaim = .node c := by
    unfold unwrapClaim
    split
    · next claim =>
      have content : contentOf s.kind "expression" = some .child := by
        rw [eq_of_beq claim]
        rfl
      rcases get_node (h.wellFormed hs) content with hg | ⟨c, mem, hg, -⟩
      · exact .inl hg
      · exact .inr (.inr ⟨c, mem, hg⟩)
    · exact .inr (.inl rfl)
  rcases inside with hu | hu | ⟨c, mem, hu⟩
  · rw [hu]
    exact checks_nil (by simp)
  · rw [hu]
    exact (checks_checkUnwrapped h hs below).congr (by simp)
  · rw [hu]
    have hc := mem_walk_of_mem_children hs mem
    exact (checks_checkUnwrapped h hc (further c mem)).congr (by simp)
termination_by sizeOf s.node
decreasing_by
  · exact sizeOf_lt_of_mem_children hc
  · exact (sizeOf_lt_of_mem_children hd).trans (sizeOf_lt_of_mem_children hc)

/-- What is found in the value of a field is found in the objects that it leads to. -/
theorem checks_led {name : String} (hv : InWalk i.program (s.get name)) :
    i.Checks (i.checkExpression? (s.get name)) (LedList i s name) := by
  rcases hv with hg | ⟨c, hc, hg⟩
  · rw [hg]
    refine checks_nil ?_
    rintro L ⟨e, o, he, -⟩
    cases hg.symm.trans he
  · rw [hg]
    refine (checks_checkExpression h hc).congr fun L => ?_
    simp [LedList, hg]

/-! ### Types -/

/-- The type declaration that an item of a program is or exports, if there is one. -/
theorem returns_typeDeclaration? (hs : s ∈ i.program.walk) :
    Returns (typeDeclaration? (.node s)) fun d? =>
      (∀ d ∈ d?, d ∈ i.program.walk) ∧ ∀ d, d? = some d ↔ Declares s d := by
  have answer : ∀ d ∈ i.program.walk, (∀ d', Declares s d' ↔ d' = d ∧ d.isTypeDeclaration = true) →
      Returns (pure (if d.isTypeDeclaration then some d else none) : Except Fault (Option Site))
        fun d? => (∀ d ∈ d?, d ∈ i.program.walk) ∧ ∀ d, d? = some d ↔ Declares s d := by
    intro d hd declares
    refine .pure ?_
    by_cases type : d.isTypeDeclaration = true
    · simp [declares, type, hd, eq_comm]
    · simp [declares, type]
  simp only [typeDeclaration?, Entry.site, ok_bind]
  by_cases exports : s.isExport = true
  · simp only [exports, if_true]
    -- an export is no type declaration itself
    have plain : s.isTypeDeclaration = false := by
      rw [isExport, Bool.or_eq_true, beq_iff_eq, beq_iff_eq] at exports
      rcases exports with kind | kind
      · simp [isTypeDeclaration, kind]
      · simp [isTypeDeclaration, kind]
    rcases get_nodeField (h.wellFormed hs) (show nodeField "declaration" = true from rfl) with
      hg | ⟨d, mem, hg⟩
    · rw [hg]
      refine answer s hs fun d' => ⟨?_, fun ⟨_, type⟩ => ?_⟩
      · rintro ⟨rfl | ⟨-, declared⟩, type⟩
        · exact ⟨rfl, type⟩
        · cases hg.symm.trans declared
      · rw [plain] at type
        cases type
    · rw [hg]
      refine answer d (mem_walk_of_mem_children hs mem) fun d' => ⟨?_, ?_⟩
      · rintro ⟨rfl | ⟨-, declared⟩, type⟩
        · rw [plain] at type
          cases type
        · obtain rfl : d = d' := by simpa using hg.symm.trans declared
          exact ⟨rfl, type⟩
      · rintro ⟨rfl, type⟩
        exact ⟨.inr ⟨exports, hg⟩, type⟩
  · simp only [exports]
    refine answer s hs fun d' => ⟨?_, ?_⟩
    · rintro ⟨rfl | ⟨absurd, -⟩, type⟩
      · exact ⟨rfl, type⟩
      · exact (exports absurd).elim
    · rintro ⟨rfl, type⟩
      exact ⟨.inl rfl, type⟩

theorem checks_checkDeclarationOf (name : Value) (hs : s ∈ i.program.walk) :
    i.Checks (i.checkDeclarationOf name s) fun L => DeclaresName s name ∧ OwnMembers s L := by
  have own : i.Checks (if s.kind == "TSInterfaceDeclaration" then do
        match ← (s.get "body").site? with
        | some body => i.checkList (body.get "body")
        | none => return []
      else do
        match ← (s.get "typeAnnotation").site? with
        | some type => i.checkList (type.get "members")
        | none => return []) (OwnMembers s) := by
    unfold OwnMembers
    by_cases interface : s.kind = "TSInterfaceDeclaration"
    · have content : contentOf s.kind "body" = some (.node (some "TSInterfaceBody")) := by
        rw [interface]
        rfl
      simp only [interface, beq_self_eq_true, if_true]
      exact checks_held (inWalk_get h.wf hs content) "body"
    · simp only [interface, beq_iff_eq, if_false]
      exact checks_held (inWalk_nodeField h.wf hs rfl) "members"
  refine Checks.congr (checks_bind_site (inWalk_nodeField h.wf hs rfl)
    (R := fun id L => (id.get "name").eqv name = true ∧ OwnMembers s L) rfl fun id _ => ?_)
    fun L => by simp only [DeclaresName, ← and_assoc, exists_and_right]
  by_cases same : (id.get "name").eqv name = true
  · simp only [same, Bool.not_true, Bool.false_eq_true, if_false]
    exact own.congr (by simp)
  · simp only [same, Bool.not_false, if_true]
    exact checks_nil (by simp)

theorem checks_checkItem (name : Value) (hs : s ∈ i.program.walk) :
    i.Checks (i.checkItem name (.node s)) fun L => ∃ d, Declares s d ∧ DeclaresName d name ∧
      OwnMembers d L := by
  refine checks_bind (.inl (returns_typeDeclaration? h hs)) fun d? _ ⟨walk, declares⟩ => ?_
  cases d? with
  | none => exact checks_nil (by simp [← declares])
  | some d =>
    refine (checks_checkDeclarationOf h name (walk d rfl)).congr fun L => ?_
    simp [← declares]

theorem checks_checkTypeName (name : Value) :
    i.Checks (i.checkTypeName name) (NamedMembers i.program name) := by
  unfold checkTypeName NamedMembers
  by_cases given : name.truthy = true
  · simp only [given, Bool.not_true, Bool.false_eq_true, if_false, true_and]
    refine checks_bind (returnsUnless_items_body h.wf) ?_
    rintro _ - rfl
    refine (checks_mapM (R := fun e L => ∃ item, e = .node item ∧ ∃ d, Declares item d ∧
      DeclaresName d name ∧ OwnMembers d L) fun e he => ?_).congr (by simp)
    obtain ⟨item, mem, rfl⟩ := List.mem_map.1 he
    have walk := mem_walk_of_mem_children (mem_walk_self i.program) (mem_of_get_nodeList mem)
    exact (checks_checkItem h name walk).congr (by simp)
  · simp only [given, Bool.not_false, if_true]
    exact checks_nil (by simp)

theorem checks_checkBareType (hs : s ∈ i.program.walk) :
    i.Checks (i.checkBareType s) (TypeMembers i.program s) := by
  unfold checkBareType
  split
  · next reference =>
    have kind : s.kind = "TSTypeReference" := eq_of_beq reference
    refine (checks_bind_site (inWalk_nodeField h.wf hs rfl)
      (R := fun name => NamedMembers i.program (name.get "name")) rfl fun name _ =>
        checks_checkTypeName h (name.get "name")).congr fun L => ?_
    constructor
    · rintro ⟨name, given, named⟩
      exact .reference kind given named
    · intro members
      cases members with
      | literal other => exact absurd (kind.symm.trans other) (by decide)
      | reference _ given named => exact ⟨_, given, named⟩
  split
  · next reference literal =>
    have kind : s.kind = "TSTypeLiteral" := eq_of_beq literal
    refine checks_list fun L => ⟨fun members => ?_, ?_⟩
    · cases members with
      | literal => rfl
      | reference other => exact absurd (beq_iff_eq.2 other) reference
    · rintro rfl
      exact .literal kind
  · next reference literal =>
    refine checks_nil fun L members => ?_
    cases members with
    | literal kind => exact literal (beq_iff_eq.2 kind)
    | reference kind => exact reference (beq_iff_eq.2 kind)

theorem checks_checkType (hs : s ∈ i.program.walk) :
    i.Checks (i.checkType (.node s)) (ListedMembers i.program s) := by
  show i.Checks (if s.kind == "TSTypeAnnotation" then _ else _) _
  unfold ListedMembers bareType
  split
  · exact checks_bind_site (inWalk_nodeField h.wf hs rfl) rfl fun b hb => checks_checkBareType h hb
  · exact (checks_checkBareType h hs).congr (by simp)

/-! ### Visits -/

theorem succeeds_isPropTypesDeclaration (hs : s ∈ i.program.walk) :
    Succeeds s.isPropTypesDeclaration := by
  have wf := h.wellFormed hs
  obtain ⟨name, hname, -⟩ := succeeds_propertyName wf
  have named : ∀ annotated : Bool, Succeeds (if annotated = true then pure true
      else do return (← s.propertyName) == Text.ofString "propTypes") := by
    intro annotated
    rw [hname]
    cases annotated with
    | true => exact succeeds_ok _
    | false => exact succeeds_ok _
  simp only [isPropTypesDeclaration]
  split
  · exact returns_bind_child wf rfl (named false) fun key _ => named _
  · exact named false

theorem succeeds_isShapeCall (hs : s ∈ i.program.walk) : Succeeds s.isShapeCall := by
  have wf := h.wellFormed hs
  refine returns_bind_child wf rfl (succeeds_ok _) fun callee hc => ?_
  show Succeeds ((callee.get "property").site? >>= _)
  have wfc := wellFormed_of_mem_children wf hc
  exact returns_bind_child wfc rfl (succeeds_ok _) fun property _ => succeeds_ok _

theorem checks_visitCall (hs : s ∈ i.program.walk) :
    i.Checks (i.visitCall s) (ShapeList i s) := by
  have argument : ∀ c ∈ i.program.walk, i.Checks
      (if !(c.get "properties").isNull then i.checkList (c.get "properties")
        else if c.isIdentifier then i.checkVariable c else return [])
      (ArgumentProperties i.program c) := by
    intro c hc
    unfold ArgumentProperties
    by_cases missing : (c.get "properties").isNull = true
    · simp only [missing, Bool.not_true, Bool.false_eq_true, if_false, if_true]
      exact .guard beq_iff_eq fun _ => checks_checkVariable h hc
    · simp only [missing, Bool.not_false, if_true]
      exact checks_list (by simp)
  obtain ⟨shape, hshape, -⟩ := succeeds_isShapeCall h hs
  unfold visitCall ShapeList
  simp only [hshape, ok_bind]
  cases i.policy.sortShapeProp with
  | false => exact checks_nil (by simp)
  | true =>
    cases shape with
    | false => exact checks_nil (by simp)
    | true =>
      rw [truthy_listField (h.wellFormed hs) rfl, first_listField (h.wellFormed hs) rfl]
      cases first : (s.get "arguments").nodeList.head? with
      | none => exact checks_nil (by simp)
      | some c =>
        have mem : c ∈ s.children := mem_of_get_nodeList (List.mem_of_mem_head? first)
        exact (argument c (mem_walk_of_mem_children hs mem)).congr (by simp)

theorem checks_visitClassProperty (hs : s ∈ i.program.walk) (hk : s.kind = "ClassProperty") :
    i.Checks (i.visitClassProperty s) (FieldList i s) := by
  have content : contentOf s.kind "value" = some .child := by rw [hk]; rfl
  obtain ⟨declares, hdeclares, -⟩ := succeeds_isPropTypesDeclaration h hs
  unfold visitClassProperty FieldList
  simp only [hdeclares, ok_bind]
  exact .guard (by simp) fun _ => checks_led h (inWalk_get h.wf hs content)

theorem checks_visitMember (hs : s ∈ i.program.walk) :
    i.Checks (i.visitMember s) (AssignedList i s) := by
  obtain ⟨declares, hdeclares, -⟩ := succeeds_isPropTypesDeclaration h hs
  unfold visitMember AssignedList
  simp only [hdeclares, ok_bind]
  cases declares with
  | false => exact checks_nil (by simp)
  | true =>
    simp only [Bool.not_true, Bool.false_eq_true, if_false, true_and]
    cases hp : s.parent? with
    | none => exact checks_nil (by simp)
    | some p =>
      have right := inWalk_nodeField h.wf (h.mem_walk_parent hs hp)
        (show nodeField "right" = true from rfl)
      simp only [Option.some.injEq, exists_eq_left']
      exact .guard Iff.rfl fun _ => checks_led h right

/-- The value of a node that has a key is a node. -/
theorem inWalk_value_of_key (hs : s ∈ i.program.walk) (key : (s.get "key").isNull = false) :
    InWalk i.program (s.get "value") := by
  have wf := h.wellFormed hs
  cases hc : contentOf s.kind "key" with
  | none =>
    rw [get_of_contentOf_eq_none wf hc] at key
    cases key
  | some content =>
    have hk : s.kind ∈ ["MethodDefinition", "ClassProperty", "Property", "TSPropertySignature",
        "TSMethodSignature"] :=
      kind_of_contentOf (P := fun kind => kind ∈ ["MethodDefinition", "ClassProperty", "Property",
        "TSPropertySignature", "TSMethodSignature"]) hc (by decide) (by decide)
    -- signatures have a key and no value
    have value : contentOf s.kind "value" = none ∨
        ∃ k, contentOf s.kind "value" = some (.node k) := by
      simp only [List.mem_cons, List.not_mem_nil, or_false] at hk
      rcases hk with hk | hk | hk | hk | hk
      · exact .inr ⟨some "FunctionExpression", by rw [hk]; rfl⟩
      · exact .inr ⟨none, by rw [hk]; rfl⟩
      · exact .inr ⟨none, by rw [hk]; rfl⟩
      · exact .inl (by rw [hk]; rfl)
      · exact .inl (by rw [hk]; rfl)
    rcases value with hv | ⟨k, hv⟩
    · exact .inl (get_of_contentOf_eq_none wf hv)
    · exact inWalk_get h.wf hs hv

theorem checks_visitObjectMember (hs : s ∈ i.program.walk) :
    i.Checks (i.visitObjectMember (.node s)) (KeyedList s) := by
  show i.Checks (if (s.get "key").isNull then _ else _) _
  unfold KeyedList
  by_cases keyless : (s.get "key").isNull = true
  · simp only [keyless, if_true]
    exact checks_nil (by simp)
  have key : (s.get "key").isNull = false := by simpa using keyless
  obtain ⟨declares, hdeclares, -⟩ := succeeds_isPropTypesDeclaration h hs
  simp only [key, hdeclares, ok_bind, Bool.false_eq_true, if_false, true_and]
  cases declares with
  | false => exact checks_nil (by simp)
  | true =>
    simp only [Bool.not_true, Bool.false_eq_true, if_false, true_and]
    exact checks_bind_site (inWalk_value_of_key h hs key) rfl fun _ _ =>
      .guard beq_iff_eq fun _ => checks_list fun _ => Iff.rfl

theorem checks_visitObject (hs : s ∈ i.program.walk) : i.Checks (i.visitObject s)
    fun L => ∃ member ∈ (s.get "properties").nodeList, KeyedList member L := by
  rw [visitObject, items_listField (h.wellFormed hs) rfl, ok_bind]
  refine (checks_mapM (R := fun e L => ∃ member, e = .node member ∧ KeyedList member L)
    fun e he => ?_).congr (by simp)
  obtain ⟨member, mem, rfl⟩ := List.mem_map.1 he
  have walk := mem_walk_of_mem_children hs (mem_of_get_nodeList mem)
  exact (checks_visitObjectMember h walk).congr (by simp)

theorem checks_visitClass (hs : s ∈ i.program.walk) :
    i.Checks (i.visitClass s) (BaseList i s) := by
  have arguments : InWalk i.program (s.get "superTypeParameters") :=
    inWalk_nodeField h.wf hs rfl
  refine (checks_bind_site arguments (R := fun a L =>
    (Component.find? i.components s).isSome = true ∧
      ∃ t, (a.get "params").nodeList.head? = some t ∧ ListedMembers i.program t L) rfl
    fun a ha => ?_).congr fun L => ?_
  · simp only [truthy_listField (h.wellFormed ha) (show listField "params" = true from rfl),
      first_listField (h.wellFormed ha) (show listField "params" = true from rfl)]
    cases first : (a.get "params").nodeList.head? with
    | none => exact checks_nil (by simp)
    | some t =>
      have mem : t ∈ a.children := mem_of_get_nodeList (List.mem_of_mem_head? first)
      have type := checks_checkType h (mem_walk_of_mem_children ha mem)
      cases Component.find? i.components s with
      | none => exact checks_nil (by simp)
      | some component => exact type.congr (by simp)
  · simp only [BaseList, exists_and_left, and_left_comm]

/-- The pattern of a parameter is a site of the program, if there is one. -/
theorem inWalk_pattern (hs : s ∈ i.program.walk) : InWalk i.program (pattern s) := by
  unfold pattern
  split
  · exact inWalk_nodeField h.wf hs rfl
  · exact .inr ⟨s, hs, rfl⟩

/-- The types that are read off the patterns of parameters are those that the patterns have. -/
theorem returns_types {vs : List Value} (hvs : ∀ v ∈ vs, InWalk i.program v) :
    Returns (vs.mapM typeOf) fun ts => (∀ t ∈ ts, InWalk i.program t) ∧
      ∀ a, .node a ∈ ts ↔ ∃ v ∈ vs, ∃ q, v = .node q ∧ q.get "typeAnnotation" = .node a := by
  have each : ∀ v ∈ vs, Returns (typeOf v) (InWalk i.program) := by
    intro v hv
    rcases hvs v hv with rfl | ⟨q, hq, rfl⟩
    · exact ⟨.null, rfl, .inl rfl⟩
    · exact ⟨_, rfl, inWalk_nodeField h.wf hq rfl⟩
  obtain ⟨ts, hts, walk⟩ := Returns.mapM each
  refine ⟨ts, hts, walk, fun a => ⟨fun ha => ?_, ?_⟩⟩
  · obtain ⟨v, hv, htype⟩ := exists_of_mem_mapM hts ha
    rcases hvs v hv with rfl | ⟨q, -, rfl⟩
    · cases htype
    · exact ⟨_, hv, q, rfl, Except.ok.inj htype⟩
  · rintro ⟨_, hv, q, rfl, annotated⟩
    obtain ⟨t, ht, htype⟩ := exists_answer_of_mem hts hv
    rwa [← annotated, Except.ok.inj htype]

theorem checks_visitFunction (hs : s ∈ i.program.walk) :
    i.Checks (i.visitFunction s) (ParameterList i s) := by
  have params : ((s.get "params").nodeList.map Entry.node).mapM parameter =
      .ok ((s.get "params").nodeList.map pattern) := by
    rw [mapM_eq_ok_iff, List.forall₂_map_left_iff, List.forall₂_map_right_iff, List.forall₂_same]
    exact fun p _ => rfl
  have patterns : ∀ v ∈ (s.get "params").nodeList.map pattern, InWalk i.program v := by
    intro v hv
    obtain ⟨p, mem, rfl⟩ := List.mem_map.1 hv
    exact inWalk_pattern h (mem_walk_of_mem_children hs (mem_of_get_nodeList mem))
  obtain ⟨ts, hts, walk, types⟩ := returns_types h patterns
  have listed : i.Checks (do return (← (ts.filter (!·.isNull)).mapM i.checkType).flatten)
      fun L => ∃ t ∈ ts.filter (!·.isNull), ∃ a, t = .node a ∧ ListedMembers i.program a L := by
    refine checks_mapM fun t ht => ?_
    obtain ⟨mem, given⟩ := List.mem_filter.1 ht
    rcases walk t mem with rfl | ⟨a, ha, rfl⟩
    · cases given
    · exact (checks_checkType h ha).congr (by simp)
  rw [visitFunction, items_listField (h.wellFormed hs) rfl, ok_bind, params, ok_bind, hts, ok_bind]
  unfold ParameterList
  cases Component.find? i.components s with
  | none => simpa using checks_nil (by simp)
  | some component =>
    have all : ∀ L, (∃ t ∈ ts.filter (!·.isNull), ∃ a, t = .node a ∧
        ListedMembers i.program a L) ↔ ∃ p ∈ (s.get "params").nodeList, ∃ q a,
          pattern p = .node q ∧ q.get "typeAnnotation" = .node a ∧
            ListedMembers i.program a L := by
      intro L
      constructor
      · rintro ⟨_, ht, a, rfl, members⟩
        obtain ⟨v, hv, q, rfl, annotated⟩ := (types a).1 (List.mem_of_mem_filter ht)
        obtain ⟨p, mem, hp⟩ := List.mem_map.1 hv
        exact ⟨p, mem, q, a, hp, annotated, members⟩
      · rintro ⟨p, mem, q, a, hp, annotated, members⟩
        have ht := (types a).2 ⟨_, List.mem_map_of_mem mem, q, hp, annotated⟩
        exact ⟨_, List.mem_filter.2 ⟨ht, rfl⟩, a, rfl, members⟩
    refine Checks.congr ?_ fun L => (all L).trans (by simp)
    cases hfilter : ts.filter (!·.isNull) with
    | nil => exact checks_nil (by simp)
    | cons t rest =>
      rw [hfilter] at listed
      simpa using listed

/-- What is found at a node is found in the lists that are checked there. -/
theorem checks_visit (hs : s ∈ i.program.walk) : i.Checks (i.visit s) (i.ChecksAt s) := by
  unfold visit
  split
  · next hk =>
    have kind : s.kind = "CallExpression" := eq_of_beq hk
    exact (checks_visitCall h hs).congr fun L => by
      simp [ChecksAt, kind, isClass, isFunctionLike]
  split
  · next hk =>
    have kind : s.kind = "ClassProperty" := eq_of_beq hk
    exact (checks_visitClassProperty h hs kind).congr fun L => by
      simp [ChecksAt, kind, isClass, isFunctionLike]
  split
  · next hk =>
    have kind : s.kind = "MemberExpression" := eq_of_beq hk
    exact (checks_visitMember h hs).congr fun L => by
      simp [ChecksAt, kind, isClass, isFunctionLike]
  split
  · next hk =>
    have kind : s.kind = "ObjectExpression" := eq_of_beq hk
    exact (checks_visitObject h hs).congr fun L => by
      simp [ChecksAt, kind, isClass, isFunctionLike]
  split
  · next call field member object hk =>
    have plain : s.isFunctionLike = false := by
      rw [isClass, Bool.or_eq_true, beq_iff_eq, beq_iff_eq] at hk
      rcases hk with kind | kind
      · simp [isFunctionLike, kind]
      · simp [isFunctionLike, kind]
    exact (checks_visitClass h hs).congr fun L => by
      simp_all [ChecksAt]
  split
  · exact (checks_visitFunction h hs).congr fun L => by simp_all [ChecksAt]
  · exact checks_nil fun L => by simp_all [ChecksAt]

/-- What is found in a whole program is found in the lists that are checked at its nodes. -/
theorem checks_run :
    i.Checks (i.run i.program) fun L => ∃ s ∈ i.program.walk, i.ChecksAt s L :=
  checks_mapM fun _ hs => checks_visit h hs

end Routes

end Inspection

end PropOrder
