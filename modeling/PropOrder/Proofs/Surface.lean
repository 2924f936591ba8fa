import PropOrder.Proofs.WellFormed
import PropOrder.ReturnSurface

/-!
# The return surface of a well-formed program

On a well-formed program no reading fails, and lists of sites alone say what the return surface is
made of: `given` lists the candidates that a site gives as a scope of a function, `next` the
statements that a statement is followed to, and `follow` what a candidate leads to in the end.
`returnSurface_eq` puts them together.
-/

namespace PropOrder

namespace Site
variable {source : SourceText} {f s c : Site} {name : String}

/-! ### Kinds -/

/-- Whether a statement is a loop. -/
def isLoop (s : Site) : Bool :=
  ["WhileStatement", "DoWhileStatement", "ForStatement", "ForInStatement",
    "ForOfStatement"].contains s.kind

theorem isLoop_iff : s.isLoop = true ↔ s.kind = "WhileStatement" ∨ s.kind = "DoWhileStatement" ∨
    s.kind = "ForStatement" ∨ s.kind = "ForInStatement" ∨ s.kind = "ForOfStatement" := by
  simp [isLoop]

theorem isTransparent_eq (s : Site) :
    s.isTransparent = (s.isLoop || s.isChoice || s.kind == "ExpressionStatement") := by
  rw [Bool.eq_iff_iff]
  simp only [isTransparent, transparentKinds, isLoop, isChoice, List.contains_iff_mem,
    Bool.or_eq_true, beq_iff_eq, List.mem_cons, List.not_mem_nil, or_false]
  tauto

theorem isFunctionLike_iff : s.isFunctionLike = true ↔ s.kind = "FunctionDeclaration" ∨
    s.kind = "FunctionExpression" ∨ s.kind = "ArrowFunctionExpression" := by
  simp [isFunctionLike, or_assoc]

/-- A node of a kind that is no kind of function is no function. -/
theorem isFunctionLike_eq_false {kind : String} (h : s.kind = kind)
    (other : kind ∉ ["FunctionDeclaration", "FunctionExpression", "ArrowFunctionExpression"]) :
    s.isFunctionLike = false := by
  subst h
  rw [← Bool.not_eq_true, isFunctionLike_iff]
  simpa using other

theorem contentOf_body_of_isFunctionLike (h : s.isFunctionLike = true) :
    contentOf s.kind "body" = some .child := by
  rcases isFunctionLike_iff.1 h with h | h | h
  · rw [h]; rfl
  · rw [h]; rfl
  · rw [h]; rfl

theorem contentOf_body_of_isLoop (h : s.isLoop = true) :
    contentOf s.kind "body" = some .child := by
  rcases isLoop_iff.1 h with h | h | h | h | h
  · rw [h]; rfl
  · rw [h]; rfl
  · rw [h]; rfl
  · rw [h]; rfl
  · rw [h]; rfl

theorem contentOf_body_of_isBlock (h : s.isBlock = true) :
    contentOf s.kind "body" = some .list := by
  rw [eq_of_beq h]
  rfl

theorem contentOf_cases (h : s.kind = "SwitchStatement") :
    contentOf s.kind "cases" = some (.nodes (some "SwitchCase")) := by
  rw [h]
  rfl

theorem kind_of_mem_cases (wf : s.node.WellFormed source) (h : s.kind = "SwitchStatement")
    (hc : c ∈ (s.get "cases").nodeList) : c.kind = "SwitchCase" :=
  (get_nodes wf (contentOf_cases h)).2 c hc _ rfl

/-! ### Scopes -/

/-- Whether a value is a declaration that belongs to the block around it. -/
def isLexical (v : Value) : Bool :=
  v.nodeList.any fun d =>
    d.kind == "VariableDeclaration" &&
      ((d.get "kind").isText "let" || (d.get "kind").isText "const")

/-- Whether a site is a loop that declares a variable of its own. -/
def isScopedLoop (s : Site) : Bool :=
  s.kind == "ForStatement" && isLexical (s.get "init") ||
    (s.kind == "ForInStatement" || s.kind == "ForOfStatement") && isLexical (s.get "left")

/-- The kind of the scope that a site of a well-formed program opens. -/
def opens (s : Site) : Option ScopeKind :=
  if s.kind == "Program" then some .global
  else if s.isFunctionLike then some .function
  else if s.isBlock then if s.isFunctionBody then none else some .block
  else if s.kind == "SwitchStatement" then some .switch
  else if s.isScopedLoop then some .loop
  else if s.kind == "CatchClause" then some .handler
  else if s.isClass then some .classBody
  else none

theorem declaresInBlock_get (h : s.node.WellFormed source)
    (hc : contentOf s.kind name = some .child) :
    declaresInBlock (s.get name) = .ok (isLexical (s.get name)) := by
  rw [declaresInBlock, site?_get h hc, isLexical, nodeList_get h hc]
  cases s.child? name with
  | none => rfl
  | some d => simp

theorem loopScope?_eq (h : s.node.WellFormed source) (hc : contentOf s.kind name = some .child) :
    s.loopScope? name = .ok (if isLexical (s.get name) then some .loop else none) := by
  rw [loopScope?, declaresInBlock_get h hc]
  rfl

theorem scopeKind?_eq (h : s.node.WellFormed source) : s.scopeKind? = .ok s.opens := by
  unfold scopeKind? opens
  -- only the loops that may declare a variable look into a field
  by_cases for_ : s.kind = "ForStatement"
  · have init : contentOf s.kind "init" = some .child := by rw [for_]; rfl
    simp [for_, isFunctionLike, isBlock, isClass, isScopedLoop, loopScope?_eq h init]
  · by_cases each : s.kind = "ForInStatement" ∨ s.kind = "ForOfStatement"
    · have left : contentOf s.kind "left" = some .child := by
        rcases each with he | he
        · rw [he]; rfl
        · rw [he]; rfl
      rcases each with he | he
      · simp [he, isFunctionLike, isBlock, isClass, isScopedLoop, loopScope?_eq h left]
      · simp [he, isFunctionLike, isBlock, isClass, isScopedLoop, loopScope?_eq h left]
    · have plain : s.isScopedLoop = false := by
        rw [not_or] at each
        simp [isScopedLoop, for_, each]
      rw [not_or] at each
      simp only [for_, each, plain, beq_iff_eq, Bool.or_eq_true, if_false, or_self, pure_eq_ok,
        Bool.false_eq_true]
      split_ifs <;> rfl

theorem scope?_eq (h : s.node.WellFormed source) :
    s.scope? = .ok (s.opens.map fun kind => ⟨kind, s⟩) := by
  rw [scope?, scopeKind?_eq h]
  rfl

end Site

/-- The scopes that sites open. -/
def Scope.opened (sites : List Site) : List Scope :=
  sites.filterMap fun s => s.opens.map fun kind => ⟨kind, s⟩

/-- The scopes of a well-formed program are those that its sites open. -/
theorem Scope.all_eq {source : SourceText} {r : Site} (h : r.node.WellFormed source) :
    Scope.all r = .ok (opened r.walk) := by
  have each : r.walk.mapM Site.scope? =
      .ok (r.walk.map fun s => s.opens.map fun kind => ⟨kind, s⟩) :=
    mapM_eq_ok_map fun s hs => Site.scope?_eq (Site.wellFormed_of_mem_walk h s hs)
  rw [Scope.all, each]
  simp [opened, List.filterMap_map]

namespace Site
variable {source : SourceText} {r f s c : Site} {name : String}

/-! ### Following a statement -/

/-- The child in a field for one node, if it is not in braces. -/
def unbraced (s : Site) (name : String) : List Site := (s.get name).nodeList.filter (!·.isBlock)

/-- The statements that a statement is followed to. -/
def next (s : Site) : List Site :=
  if s.isChoice then s.unbraced "consequent" ++ s.unbraced "alternate"
  else if s.isLoop then s.unbraced "body"
  else if s.kind == "SwitchStatement" then
    (s.get "cases").nodeList.flatMap fun case => (case.get "consequent").nodeList
  else []

theorem mem_get_of_mem_unbraced (h : c ∈ s.unbraced name) : c ∈ (s.get name).nodeList :=
  List.mem_of_mem_filter h

/-- A statement is followed to a child, or from a case to a child of that. -/
theorem mem_next (h : c ∈ s.next) :
    c ∈ s.children ∨ s.kind = "SwitchStatement" ∧
      ∃ case ∈ (s.get "cases").nodeList, c ∈ case.children := by
  unfold next at h
  split_ifs at h with choice loop switch
  · rcases List.mem_append.1 h with h | h
    · exact .inl (mem_of_get_nodeList (mem_get_of_mem_unbraced h))
    · exact .inl (mem_of_get_nodeList (mem_get_of_mem_unbraced h))
  · exact .inl (mem_of_get_nodeList (mem_get_of_mem_unbraced h))
  · obtain ⟨case, hcase, h⟩ := List.mem_flatMap.1 h
    exact .inr ⟨eq_of_beq switch, case, hcase, mem_of_get_nodeList h⟩
  · cases h

theorem sizeOf_lt_of_mem_next (h : c ∈ s.next) : sizeOf c.node < sizeOf s.node := by
  rcases mem_next h with h | ⟨-, case, hcase, h⟩
  · exact sizeOf_lt_of_mem_children h
  · exact (sizeOf_lt_of_mem_children h).trans (sizeOf_lt_of_mem_get hcase)

theorem mem_walk_of_mem_next (hs : s ∈ r.walk) (h : c ∈ s.next) : c ∈ r.walk := by
  rcases mem_next h with h | ⟨-, case, hcase, h⟩
  · exact mem_walk_of_mem_children hs h
  · exact mem_walk_of_mem_children (mem_walk_of_mem_children hs (mem_of_get_nodeList hcase)) h

/-- The sites that a candidate of a function leads to. -/
def follow (f s : Site) : List Site :=
  if s.isConciseBody f then [s]
  else if s.isReturn || s.isFunctionLike then if s.ownedBy f then [s] else []
  else if s.kind == "ExpressionStatement" then (s.get "expression").nodeList
  else s.next.attach.flatMap fun c => follow f c.1
termination_by sizeOf s.node
decreasing_by exact sizeOf_lt_of_mem_next c.2

theorem follow_eq (f s : Site) : follow f s =
    if s.isConciseBody f then [s]
    else if s.isReturn || s.isFunctionLike then if s.ownedBy f then [s] else []
    else if s.kind == "ExpressionStatement" then (s.get "expression").nodeList
    else s.next.flatMap (follow f) := by
  rw [follow]
  simp [List.flatMap_subtype]

/-- The body of a function whose body is in braces is nowhere a concise one. -/
theorem isConciseBody_eq_false {body : Site} (hb : f.get "body" = .node body)
    (block : body.isBlock = true) (hbw : body ∈ r.walk) (hs : s ∈ r.walk) :
    s.isConciseBody f = false := by
  rw [isConciseBody, hb, Value.isSite]
  by_cases same : body.same s = true
  · rw [← (same_iff hbw hs).1 same, block]
    simp
  · simp [same]

/-- A candidate leads to sites of the program only. -/
theorem mem_walk_of_mem_follow {s : Site} (hs : s ∈ r.walk) : ∀ x ∈ follow f s, x ∈ r.walk := by
  intro x hx
  rw [follow_eq] at hx
  split_ifs at hx with concise leaves owned expression
  · rwa [List.mem_singleton.1 hx]
  · rwa [List.mem_singleton.1 hx]
  · cases hx
  · exact mem_walk_of_mem_children hs (mem_of_get_nodeList hx)
  · obtain ⟨c, hc, hx⟩ := List.mem_flatMap.1 hx
    exact mem_walk_of_mem_follow (mem_walk_of_mem_next hs hc) x hx
termination_by sizeOf s.node
decreasing_by exact sizeOf_lt_of_mem_next hc

theorem handedOut_eq (h : s.node.WellFormed source) (hk : s.kind = "ExpressionStatement") :
    s.handedOut = (s.get "expression").nodeList.map Slot.node := by
  have hc : contentOf s.kind "expression" = some .child := by rw [hk]; rfl
  rcases get_node h hc with hg | ⟨c, -, hg, -⟩
  · rw [handedOut, hg]
    rfl
  · rw [handedOut, hg]
    rfl

theorem reduceUnbraced_eq (h : s.node.WellFormed source)
    (hc : contentOf s.kind name = some .child)
    (ih : ∀ c ∈ s.children, reduce f c = .ok ((follow f c).map .node)) :
    reduceUnbraced f (s.get name) = .ok (((s.unbraced name).flatMap (follow f)).map .node) := by
  rcases get_node h hc with hg | ⟨c, mem, hg, -⟩
  · rw [reduceUnbraced, unbraced, hg]
    rfl
  · rw [reduceUnbraced, unbraced, hg]
    show (if c.isBlock then .ok [] else reduce f c) = _
    by_cases hb : c.isBlock = true
    · simp [hb, Slot.nodeList, Slot.entries, Entry.node?]
    · simp [hb, Slot.nodeList, Slot.entries, Entry.node?, ih c mem]

theorem reduceCase_eq (h : s.node.WellFormed source) (hk : s.kind = "SwitchCase")
    (ih : ∀ c ∈ s.children, reduce f c = .ok ((follow f c).map .node)) :
    reduceCase f (.node s) =
      .ok (((s.get "consequent").nodeList.flatMap (follow f)).map .node) := by
  have hc : contentOf s.kind "consequent" = some .list := by rw [hk]; rfl
  have each : ((s.get "consequent").nodeList.map Entry.node).mapM
      (fun e => Value.entryWith e (.ok []) fun c _ => reduce f c) =
        .ok ((s.get "consequent").nodeList.map fun c => (follow f c).map .node) := by
    rw [List.mapM_map]
    exact mapM_eq_ok_map fun c hc => ih c (mem_of_get_nodeList hc)
  show (do
    let statements ← (s.get "consequent").items
    let found ← statements.mapM fun e => Value.entryWith e (.ok []) fun c _ => reduce f c
    return found.flatten) = _
  rw [items_get h hc, ok_bind, each, ok_bind, List.map_flatMap, List.flatMap]
  rfl

/-- On a well-formed program a statement is followed without a fault. -/
theorem reduce_eq_follow {s : Site} (h : s.node.WellFormed source) :
    reduce f s = .ok ((follow f s).map .node) := by
  have ih : ∀ c ∈ s.children, reduce f c = .ok ((follow f c).map .node) :=
    fun c hc => reduce_eq_follow (wellFormed_of_mem_children h hc)
  -- between a choice and the statements of its cases there is one more step down
  have ih' : ∀ case ∈ s.children, ∀ c ∈ case.children,
      reduce f c = .ok ((follow f c).map .node) := fun case hcase c hc =>
    reduce_eq_follow (wellFormed_of_mem_children (wellFormed_of_mem_children h hcase) hc)
  -- both go through the same sorts of statements in the same order
  rw [reduce_eq, follow_eq]
  by_cases concise : s.isConciseBody f = true
  · simp [concise]
  by_cases returns : (s.isReturn || s.isFunctionLike) = true
  · simp only [concise, returns, if_true, if_false, Bool.false_eq_true]
    split
    · rfl
    · rfl
  by_cases expression : s.kind = "ExpressionStatement"
  · simp [concise, returns, expression, handedOut_eq h expression]
  simp only [concise, returns, expression, beq_iff_eq, if_false, Bool.false_eq_true]
  by_cases choice : s.isChoice = true
  · have hk : s.kind = "IfStatement" := eq_of_beq choice
    have consequent : contentOf s.kind "consequent" = some .child := by rw [hk]; rfl
    have alternate : contentOf s.kind "alternate" = some .child := by rw [hk]; rfl
    simp [next, choice, reduceUnbraced_eq h consequent ih, reduceUnbraced_eq h alternate ih]
  by_cases loop : s.isLoop = true
  · have transparent : s.isTransparent = true := by rw [isTransparent_eq, loop]; rfl
    simp [next, choice, loop, transparent,
      reduceUnbraced_eq h (contentOf_body_of_isLoop loop) ih]
  have closed : s.isTransparent = false := by
    rw [isTransparent_eq]
    simp [loop, choice, expression]
  by_cases switch : s.kind = "SwitchStatement"
  · have each : ((s.get "cases").nodeList.map Entry.node).mapM (reduceCase f) =
        .ok ((s.get "cases").nodeList.map fun case =>
          ((case.get "consequent").nodeList.flatMap (follow f)).map Slot.node) := by
      rw [List.mapM_map]
      refine mapM_eq_ok_map fun case hcase => ?_
      have mem := mem_of_get_nodeList hcase
      exact reduceCase_eq (wellFormed_of_mem_children h mem) (kind_of_mem_cases h switch hcase)
        (ih' case mem)
    simp only [choice, closed, switch, next, loop, if_true, if_false, Bool.false_eq_true,
      beq_self_eq_true]
    rw [items_get h (contentOf_cases switch), ok_bind, each, ok_bind, List.flatMap_assoc,
      List.map_flatMap, List.flatMap]
    rfl
  · simp [next, choice, closed, switch, loop]
termination_by sizeOf s.node
decreasing_by
  · exact sizeOf_lt_of_mem_children hc
  · exact (sizeOf_lt_of_mem_children hc).trans (sizeOf_lt_of_mem_children hcase)

/-! ### Candidates -/

/-- The candidates of the scope of a function itself. -/
def bodyStatements (f : Site) : List Site :=
  (f.get "body").nodeList.flatMap fun body =>
    if body.isBlock then
      (body.get "body").nodeList.filter fun s => s.kind == "ReturnStatement" || s.isTransparent
    else [body]

/-- The candidates that a site gives as a scope of a function. -/
def given (f s : Site) : List Site :=
  match s.opens with
  | some .function => if s.same f then f.bodyStatements else []
  | some .block => (s.get "body").nodeList
  | some .switch => [s]
  | some .loop => s.unbraced "body"
  | _ => []

theorem isLoop_of_isScopedLoop (h : s.isScopedLoop = true) : s.isLoop = true := by
  simp only [isScopedLoop, Bool.or_eq_true, Bool.and_eq_true, beq_iff_eq] at h
  rw [isLoop_iff]
  tauto

theorem opens_eq_function_iff : s.opens = some .function ↔ s.isFunctionLike = true := by
  constructor
  · intro h
    unfold opens at h
    split_ifs at h
    all_goals first | assumption | cases h
  · intro h
    rcases isFunctionLike_iff.1 h with hk | hk | hk
    · simp [opens, h, hk]
    · simp [opens, h, hk]
    · simp [opens, h, hk]

theorem opens_eq_block_iff :
    s.opens = some .block ↔ s.isBlock = true ∧ s.isFunctionBody = false := by
  constructor
  · intro h
    unfold opens at h
    split_ifs at h with hp hf hb hbody
    all_goals first | exact ⟨hb, by simpa using hbody⟩ | cases h
  · rintro ⟨h, hb⟩
    have hk : s.kind = "BlockStatement" := eq_of_beq h
    simp [opens, hk, isFunctionLike, isBlock, hb]

theorem opens_eq_switch_iff : s.opens = some .switch ↔ s.kind = "SwitchStatement" := by
  constructor
  · intro h
    unfold opens at h
    split_ifs at h with hp hf hb hbody hs
    all_goals first | exact eq_of_beq hs | cases h
  · intro hk
    simp [opens, hk, isFunctionLike, isBlock]

theorem opens_eq_loop_iff : s.opens = some .loop ↔ s.isScopedLoop = true := by
  constructor
  · intro h
    unfold opens at h
    split_ifs at h
    all_goals first | assumption | cases h
  · intro h
    rcases isLoop_iff.1 (isLoop_of_isScopedLoop h) with hk | hk | hk | hk | hk
    all_goals simp [opens, h, hk, isFunctionLike, isBlock]

theorem bodyCandidates_eq (h : f.node.WellFormed source) (hf : f.isFunctionLike = true) :
    f.bodyCandidates = .ok (f.bodyStatements.map .node) := by
  have hc := contentOf_body_of_isFunctionLike hf
  rw [bodyCandidates, site?_get h hc, bodyStatements, nodeList_get h hc]
  cases hb : f.child? "body" with
  | none => rfl
  | some body =>
    have hbody := wellFormed_of_mem_children h (mem_children_of_child? hb)
    by_cases block : body.isBlock = true
    · have flags : ((body.get "body").nodeList.map Entry.node).mapM isBodyCandidate =
          .ok ((body.get "body").nodeList.map fun s =>
            s.kind == "ReturnStatement" || s.isTransparent) := by
        rw [List.mapM_map]
        exact mapM_eq_ok_map fun s _ => rfl
      simp only [ok_bind, block, if_true, Option.toList_some, List.flatMap_cons, List.flatMap_nil,
        List.append_nil, items_get hbody (contentOf_body_of_isBlock block), flags, pure_eq_ok]
      congr 1
      generalize (body.get "body").nodeList = statements
      induction statements with
      | nil => rfl
      | cons s statements ih =>
        by_cases hs : (s.kind == "ReturnStatement" || s.isTransparent) = true
        · simpa [hs] using ih
        · simpa [hs] using ih
    · simp [block]

theorem scopeCandidates_eq {kind : ScopeKind} (h : s.node.WellFormed source)
    (hf : f.node.WellFormed source) (function : f.isFunctionLike = true)
    (ho : s.opens = some kind) : scopeCandidates f ⟨kind, s⟩ = .ok ((given f s).map .node) := by
  cases kind with
  | function =>
    simp only [scopeCandidates, given, ho]
    split
    · exact bodyCandidates_eq hf function
    · rfl
  | block =>
    simp only [scopeCandidates, given, ho]
    exact items_get h (contentOf_body_of_isBlock (opens_eq_block_iff.1 ho).1)
  | loop =>
    simp only [scopeCandidates, given, ho, loopCandidates]
    have hc := contentOf_body_of_isLoop (isLoop_of_isScopedLoop (opens_eq_loop_iff.1 ho))
    rw [site?_get h hc, unbraced, nodeList_get h hc]
    cases s.child? "body" with
    | none => rfl
    | some body =>
      by_cases block : body.isBlock = true
      · simp [block]
      · simp [block]
  | switch => simp only [scopeCandidates, given, ho]; rfl
  | global => simp only [scopeCandidates, given, ho]; rfl
  | handler => simp only [scopeCandidates, given, ho]; rfl
  | classBody => simp only [scopeCandidates, given, ho]; rfl

/-- The candidates that the scopes of a program give a function. -/
def allGiven (r f : Site) : List Site := (r.walk.filter (·.ownedBy f)).flatMap (given f)

theorem isReturn_eq_false (h : f.isFunctionLike = true) : f.isReturn = false := by
  rcases isFunctionLike_iff.1 h with h | h | h
  · rw [isReturn, h]; rfl
  · rw [isReturn, h]; rfl
  · rw [isReturn, h]; rfl

theorem candidates_eq (hr : r.node.WellFormed source) (hf : f ∈ r.walk)
    (function : f.isFunctionLike = true) :
    f.candidates (Scope.opened r.walk) =
      .ok ((allGiven r f).map .node) := by
  have each : (Scope.ownedBy f (Scope.opened r.walk)).mapM f.scopeCandidates =
      .ok ((Scope.ownedBy f (Scope.opened r.walk)).map
        fun scope => (given f scope.block).map .node) := by
    refine mapM_eq_ok_map fun scope hscope => ?_
    obtain ⟨s, hs, opened⟩ := List.mem_filterMap.1 (List.mem_of_mem_filter hscope)
    obtain ⟨kind, hk, rfl⟩ := Option.map_eq_some_iff.1 opened
    exact scopeCandidates_eq (wellFormed_of_mem_walk hr s hs) (wellFormed_of_mem_walk hr f hf)
      function hk
  -- a site opens one scope at most, so that scopes may be counted by sites
  have joined : ∀ sites : List Site, ((Scope.ownedBy f (Scope.opened sites)).map
        fun scope => (given f scope.block).map Entry.node).flatten =
      ((sites.filter (·.ownedBy f)).flatMap (given f)).map .node := by
    intro sites
    induction sites with
    | nil => rfl
    | cons s sites ih =>
      by_cases owned : s.ownedBy f = true
      · cases ho : s.opens with
        | none => simpa [Scope.opened, owned, ho, given] using ih
        | some kind => simpa [Scope.opened, Scope.ownedBy, owned, ho] using ih
      · cases ho : s.opens with
        | none => simpa [Scope.opened, owned, ho] using ih
        | some kind => simpa [Scope.opened, Scope.ownedBy, owned, ho] using ih
  rw [candidates, isReturn_eq_false function, function, each]
  simp [joined, allGiven]

/-! ### The return surface -/

theorem effectiveTarget_of_isFunctionLike (h : f.isFunctionLike = true) :
    f.effectiveTarget = .ok f := by
  rcases isFunctionLike_iff.1 h with h | h | h
  · rw [effectiveTarget, h]; rfl
  · rw [effectiveTarget, h]; rfl
  · rw [effectiveTarget, h]; rfl

theorem given_subset (hs : s ∈ r.walk) (hf : f ∈ r.walk) : ∀ c ∈ given f s, c ∈ r.walk := by
  intro c hc
  unfold given at hc
  split at hc
  · split at hc
    -- the body of the function, or the statements in it
    · obtain ⟨body, hbody, hc⟩ := List.mem_flatMap.1 hc
      have mem := mem_walk_of_mem_children hf (mem_of_get_nodeList hbody)
      split at hc
      · exact mem_walk_of_mem_children mem (mem_of_get_nodeList (List.mem_of_mem_filter hc))
      · rw [List.mem_singleton.1 hc]
        exact mem
    · cases hc
  · exact mem_walk_of_mem_children hs (mem_of_get_nodeList hc)
  · rw [List.mem_singleton.1 hc]
    exact hs
  · exact mem_walk_of_mem_children hs (mem_of_get_nodeList (mem_get_of_mem_unbraced hc))
  · cases hc

theorem allGiven_subset (hf : f ∈ r.walk) : ∀ c ∈ allGiven r f, c ∈ r.walk := by
  intro c hc
  obtain ⟨s, hs, hc⟩ := List.mem_flatMap.1 hc
  exact given_subset (List.mem_of_mem_filter hs) hf c hc

/-- The return surface of a function in a well-formed program: what its candidates lead to, one
after the other. -/
theorem returnSurface_eq (hr : r.node.WellFormed source) (hf : f ∈ r.walk)
    (function : f.isFunctionLike = true) :
    f.returnSurface (Scope.opened r.walk) =
      .ok (if allGiven r f = [] then none
        else some (((allGiven r f).flatMap (follow f)).map .node)) := by
  have each : ((allGiven r f).map Entry.node).mapM f.reduceEntry =
      .ok ((allGiven r f).map fun c => (follow f c).map Slot.node) := by
    rw [List.mapM_map]
    exact mapM_eq_ok_map fun c hc =>
      reduce_eq_follow (wellFormed_of_mem_walk hr c (allGiven_subset hf c hc))
  rw [returnSurface, effectiveTarget_of_isFunctionLike function, ok_bind,
    candidates_eq hr hf function, ok_bind]
  cases hg : allGiven r f with
  | nil => rfl
  | cons c rest =>
    rw [hg] at each
    rw [List.map_cons] at each ⊢
    simp only [each, ok_bind, pure_eq_ok, reduceCtorEq, if_false]
    rw [List.map_flatMap, List.flatMap]

/-- The return surface of a function in a well-formed program is found, and its items are sites of
the program. -/
theorem returns_returnSurface (hr : r.node.WellFormed source) (hf : f ∈ r.walk)
    (function : f.isFunctionLike = true) :
    Returns (f.returnSurface (Scope.opened r.walk))
      fun surface => ∀ v ∈ surface.getD [], ∃ x ∈ r.walk, v = .node x := by
  refine ⟨_, returnSurface_eq hr hf function, fun v hv => ?_⟩
  split at hv
  · cases hv
  · obtain ⟨x, hx, rfl⟩ := List.mem_map.1 hv
    obtain ⟨c, hc, hx⟩ := List.mem_flatMap.1 hx
    exact ⟨x, mem_walk_of_mem_follow (allGiven_subset hf c hc) x hx, rfl⟩

/-! ### Returns on the surface -/

variable {n : Node} {x body : Site}

/-- A return directly under a function leads to itself. -/
theorem mem_follow_self (hx : x ∈ (root n).walk) (hf : f ∈ (root n).walk)
    (under : x.DirectlyUnder f) (returns : x.kind = "ReturnStatement") : x ∈ follow f x := by
  have plain := isFunctionLike_eq_false returns (by decide)
  have owned : x.ownedBy f = true := (ownedBy_iff hx hf).2 (.inr ⟨under, plain⟩)
  have leaf : x.isReturn = true := by simp [isReturn, returns]
  rw [follow_eq]
  by_cases concise : x.isConciseBody f = true
  · simp [concise]
  · simp [concise, leaf, owned]

/-- A choice leads to a return that it is followed to. -/
theorem mem_follow_of_mem_next (closed : s.isConciseBody f = false)
    (switch : s.kind = "SwitchStatement") (hx : x ∈ s.next) (self : x ∈ follow f x) :
    x ∈ follow f s := by
  have other : s.isReturn = false ∧ s.isFunctionLike = false := by
    simp [isReturn, isFunctionLike, switch]
  rw [follow_eq]
  simp only [closed, other, switch, Bool.or_self, Bool.false_eq_true, if_false, beq_iff_eq,
    String.reduceEq]
  exact List.mem_flatMap.2 ⟨x, hx, self⟩

theorem mem_allGiven_of_mem_body (hf : f ∈ (root n).walk) (function : f.isFunctionLike = true)
    (hb : f.get "body" = .node body) (block : body.isBlock = true)
    (returns : x.kind = "ReturnStatement") (mem : x ∈ (body.get "body").nodeList) :
    x ∈ (root n).allGiven f := by
  have own : f ∈ (root n).walk.filter (·.ownedBy f) :=
    List.mem_filter.2 ⟨hf, (ownedBy_iff hf hf).2 (.inl rfl)⟩
  have same : f.same f = true := (same_iff hf hf).2 rfl
  refine List.mem_flatMap.2 ⟨f, own, ?_⟩
  simp only [given, opens_eq_function_iff.2 function, same, if_true]
  refine List.mem_flatMap.2 ⟨body, by rw [hb]; exact List.mem_singleton_self body, ?_⟩
  rw [if_pos block]
  exact List.mem_filter.2 ⟨mem, by simp [returns]⟩

theorem mem_allGiven_of_switch (hf : f ∈ (root n).walk) (hs : s ∈ (root n).walk)
    (under : s.DirectlyUnder f) (switch : s.kind = "SwitchStatement") :
    s ∈ (root n).allGiven f := by
  have plain := isFunctionLike_eq_false switch (by decide)
  have own : s ∈ (root n).walk.filter (·.ownedBy f) :=
    List.mem_filter.2 ⟨hs, (ownedBy_iff hs hf).2 (.inr ⟨under, plain⟩)⟩
  refine List.mem_flatMap.2 ⟨s, own, ?_⟩
  simp [given, opens_eq_switch_iff.2 switch]

/-- What one of the candidates of a function leads to is on its return surface. -/
theorem returnSurface_of_mem_follow {c : Site} (wf : n.WellFormed source) (hf : f ∈ (root n).walk)
    (function : f.isFunctionLike = true) (hc : c ∈ (root n).allGiven f) (hx : x ∈ follow f c) :
    Returns (f.returnSurface (Scope.opened (root n).walk))
      fun surface => ∃ values ∈ surface, .node x ∈ values := by
  rw [returnSurface_eq wf hf function, if_neg (List.ne_nil_of_mem hc)]
  exact .pure ⟨_, rfl, List.mem_map_of_mem (List.mem_flatMap.2 ⟨c, hc, hx⟩)⟩

/-! ### Holders of functions -/

/-- The return surface of a method or a property is that of the function it holds. -/
theorem returnSurface_of_value {scopes : List Scope}
    (holder : s.kind = "MethodDefinition" ∨ s.kind = "Property") (hv : s.get "value" = .node f)
    (function : f.isFunctionLike = true) : s.returnSurface scopes = f.returnSurface scopes := by
  have target : s.effectiveTarget = .ok f := by
    rw [effectiveTarget, hv]
    rcases holder with h | h
    · simp [h, Value.site?, function]
    · simp [h, Value.site?, function]
  rw [returnSurface, returnSurface, target, effectiveTarget_of_isFunctionLike function]

end Site

end PropOrder
