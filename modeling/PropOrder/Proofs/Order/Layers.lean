import Mathlib.Order.MinMax
import PropOrder.Proofs.Order.Groups

/-!
# What the later layers find

Three facts hold of the baseline along a group, whatever the layers do with it (`Standing`). With
callbacks last it is a callback as soon as there is one among the declarations seen, and then it is
the last of those callbacks that are not blamed for their names; its name is the greatest of the
names that it may be compared with. The first two say whom the second layer blames, and where
(`checkOrder_callbacksLast`), and the third which declarations the last layer blames
(`checkOrder_alphabetical`). Which names are compared is a key of its own there: the name as it is
written, or in lower case.
-/

namespace PropOrder

namespace Order
variable {policy : Policy} {prev curr base d e : Declaration} {before : List Declaration}
  {key : Declaration → Text}

/-! ### One comparison -/

/-- Whether the names of two declarations are compared: with callbacks last, callbacks are compared
with callbacks and the others with the others. -/
def comparable (policy : Policy) (d e : Declaration) : Bool :=
  !policy.callbacksLast || e.isCallback == d.isCallback

theorem comparable_iff : comparable policy d e = true ↔
    (policy.callbacksLast = true → e.isCallback = d.isCallback) := by
  cases h : policy.callbacksLast <;> simp [comparable, h]

theorem comparable_self (policy : Policy) (d : Declaration) : comparable policy d d = true :=
  comparable_iff.2 fun _ => rfl

/-- What a comparison within a group can do: the baseline that it leaves and what it finds. -/
inductive Compared (policy : Policy) (prev curr : Declaration) :
    Declaration → List Diagnostic → Prop where
  /-- The first callback is the baseline of what follows. -/
  | firstCallback (on : policy.callbacksLast = true) (hp : prev.isCallback = false)
      (hc : curr.isCallback = true) : Compared policy prev curr curr []
  /-- A callback in front of another declaration is blamed and stays the baseline. -/
  | behindCallback (on : policy.callbacksLast = true) (hp : prev.isCallback = true)
      (hc : curr.isCallback = false) :
      Compared policy prev curr prev [.of prev.site .callbacksLast]
  /-- A declaration with a lesser name is blamed and passed over. -/
  | below (same : comparable policy prev curr = true) (on : policy.noSortAlphabetically = false)
      (less : curr.sortName policy < prev.sortName policy) :
      Compared policy prev curr prev [.of curr.site .alphabetical]
  /-- Any other declaration is the baseline of what follows. -/
  | follows (same : comparable policy prev curr = true)
      (least : policy.noSortAlphabetically = false → prev.sortName policy ≤ curr.sortName policy) :
      Compared policy prev curr curr []

/-- Where the first layer has nothing to say, a comparison does one of the four. -/
theorem compared_of_alike (h : alike policy prev curr = true) :
    Compared policy prev curr (compare policy prev curr).1 (compare policy prev curr).2 := by
  rw [alike_iff] at h
  unfold compare
  split_ifs with ahead behind first last below
  · simp only [Bool.and_eq_true, Bool.not_eq_true'] at ahead
    have same := h ahead.1.1
    rw [ahead.1.2, ahead.2] at same
    cases same
  · simp only [Bool.and_eq_true, Bool.not_eq_true'] at behind
    have same := h behind.1.1
    rw [behind.1.2, behind.2] at same
    cases same
  · simp only [Bool.and_eq_true, Bool.not_eq_true'] at first
    exact .firstCallback first.1.1 first.1.2 first.2
  · simp only [Bool.and_eq_true, Bool.not_eq_true'] at last
    exact .behindCallback last.1.1 last.1.2 last.2
  -- neither of the two is a callback alone, so the names decide
  all_goals
    have same : comparable policy prev curr = true := by
      rw [comparable_iff]
      intro on
      cases hp : prev.isCallback <;> cases hc : curr.isCallback <;> simp_all
  · simp only [Bool.and_eq_true, Bool.not_eq_true', Text.less_iff] at below
    exact .below same below.1 below.2
  · refine .follows same fun on => ?_
    simpa [on, Text.less_iff] using below

/-! ### The baseline along a group -/

/-- Whether a declaration is blamed at its place for its name. -/
def Place.blamedForName (policy : Policy) (p : Place) : Bool :=
  (p.found policy).any (·.violation == .alphabetical)

/-- Whether a declaration is a callback that is not blamed for its name. -/
def Place.unblamedCallback (policy : Policy) (p : Place) : Bool :=
  p.here.isCallback && !p.blamedForName policy

/-- The callbacks of a group that are not blamed for their names. -/
def unblamedCallbacks (policy : Policy) (group : List Declaration) : List Declaration :=
  ((placesOf group).filter (Place.unblamedCallback policy)).map (·.here)

/-- The names that a declaration is compared with in a list, by its class. The key says by which
name a declaration is looked at. -/
def comparedNames (policy : Policy) (key : Declaration → Text) (d : Declaration)
    (before : List Declaration) : List Text :=
  (before.filter (comparable policy d)).map key

/-- What is known of the baseline behind some declarations of a group. -/
structure Standing (policy : Policy) (before : List Declaration) (base : Declaration) : Prop where
  /-- It is a callback if there is one. -/
  callback : policy.callbacksLast = true → base.isCallback = before.any (·.isCallback)
  /-- Its name is the greatest of those that it is compared with. -/
  greatest : policy.noSortAlphabetically = false →
    (comparedNames policy (Declaration.sortName policy) base before).max? =
      some (base.sortName policy)
  /-- If it is a callback, it is the last one that is not blamed for its name. -/
  nearest : policy.callbacksLast = true → base.isCallback = true →
    (unblamedCallbacks policy before).getLast? = some base

theorem comparedNames_concat (d e : Declaration) (before : List Declaration) :
    comparedNames policy key d (before ++ [e]) =
      comparedNames policy key d before ++ if comparable policy d e then [key e] else [] := by
  rw [comparedNames, List.filter_append, List.map_append, ← comparedNames]
  refine congrArg _ ?_
  by_cases h : comparable policy d e = true
  · simp [h]
  · simp [h]

/-- The greatest name behind one more declaration of the class, if one of the two names is greatest
of both. -/
theorem max?_comparedNames_concat {greatest : Text} (same : comparable policy d e = true)
    (h : (comparedNames policy key d before).max? = some (key base))
    (mem : greatest = key base ∨ greatest = key e) (hb : key base ≤ greatest)
    (he : key e ≤ greatest) :
    (comparedNames policy key d (before ++ [e])).max? = some greatest := by
  rw [List.max?_eq_some_iff] at h ⊢
  rw [comparedNames_concat, if_pos same]
  refine ⟨?_, fun name hname => ?_⟩
  · rw [List.mem_append, List.mem_singleton]
    rcases mem with rfl | rfl
    · exact .inl h.1
    · exact .inr rfl
  · rcases List.mem_append.1 hname with hname | hname
    · exact (h.2 name hname).trans hb
    · rw [List.mem_singleton.1 hname]
      exact he

/-- Declarations of one class are compared with the same names. -/
theorem comparedNames_congr (same : comparable policy d e = true) (before : List Declaration) :
    comparedNames policy key d before = comparedNames policy key e before := by
  have alike : comparable policy d = comparable policy e := by
    funext c
    unfold comparable
    cases on : policy.callbacksLast with
    | false => rfl
    | true => rw [comparable_iff.1 same on]
  rw [comparedNames, alike]
  rfl

/-- The first callback of a group is compared with no name. -/
theorem comparedNames_firstCallback (on : policy.callbacksLast = true)
    (noCallback : before.any (·.isCallback) = false) (hc : d.isCallback = true) :
    comparedNames policy key d before = [] := by
  rw [comparedNames, List.map_eq_nil_iff, List.filter_eq_nil_iff]
  intro e he same
  have likewise := comparable_iff.1 same on
  have other := List.any_eq_false.1 noCallback e he
  rw [likewise, hc] at other
  exact other rfl

theorem unblamedCallbacks_concat (before : List Declaration) (d : Declaration) :
    unblamedCallbacks policy (before ++ [d]) = unblamedCallbacks policy before ++
      if Place.unblamedCallback policy ⟨before, d⟩ then [d] else [] := by
  rw [unblamedCallbacks, placesOf_concat, List.filter_append, List.map_append, ← unblamedCallbacks]
  refine congrArg _ ?_
  by_cases h : Place.unblamedCallback policy ⟨before, d⟩ = true
  · simp [h]
  · simp [h]

/-- Where nothing is found, a callback is not blamed. -/
theorem unblamedCallback_of_silent (silent : Place.found policy ⟨before, d⟩ = []) :
    Place.unblamedCallback policy ⟨before, d⟩ = d.isCallback := by
  simp [Place.unblamedCallback, Place.blamedForName, silent]

/-- The first declaration of a group is the baseline behind it. -/
theorem standing_first (d : Declaration) : Standing policy [d] d where
  callback _ := by simp
  greatest _ := by
    rw [← List.nil_append [d], comparedNames_concat, if_pos (comparable_self policy d)]
    rfl
  nearest _ callback := by
    rw [← List.nil_append [d], unblamedCallbacks_concat, unblamedCallback_of_silent rfl, callback]
    rfl

/-- What is known of the baseline is kept from one declaration to the next. -/
theorem Standing.step {next : Declaration} {found : List Diagnostic}
    (h : Standing policy before base) (reached : Place.found policy ⟨before, d⟩ = found)
    (compared : Compared policy base d next found) : Standing policy (before ++ [d]) next := by
  cases compared with
  | firstCallback on hp hc =>
    have noCallback : before.any (·.isCallback) = false := by rw [← h.callback on, hp]
    refine ⟨fun _ => ?_, fun _ => ?_, fun _ _ => ?_⟩
    · simp [hc]
    · rw [comparedNames_concat, comparedNames_firstCallback on noCallback hc,
        if_pos (comparable_self policy d)]
      rfl
    · rw [unblamedCallbacks_concat, unblamedCallback_of_silent reached, hc]
      simp
  | behindCallback on hp hc =>
    -- what stands behind a callback changes nothing
    refine ⟨fun _ => ?_, fun named => ?_, fun _ _ => ?_⟩
    · rw [h.callback on]
      simp [hc]
    · have other : ¬comparable policy base d = true := by
        rw [comparable_iff]
        simp [on, hp, hc]
      rw [comparedNames_concat, if_neg other, List.append_nil, h.greatest named]
    · have other : ¬Place.unblamedCallback policy ⟨before, d⟩ = true := by
        simp [Place.unblamedCallback, hc]
      rw [unblamedCallbacks_concat, if_neg other, List.append_nil, h.nearest on hp]
  | below same named less =>
    refine ⟨fun on => ?_, fun _ => ?_, fun on callback => ?_⟩
    · have likewise := comparable_iff.1 same on
      rw [h.callback on] at likewise ⊢
      simp [likewise]
    · exact max?_comparedNames_concat same (h.greatest named) (.inl rfl) le_rfl less.le
    · have other : ¬Place.unblamedCallback policy ⟨before, d⟩ = true := by
        simp [Place.unblamedCallback, Place.blamedForName, reached, Diagnostic.of]
      rw [unblamedCallbacks_concat, if_neg other, List.append_nil, h.nearest on callback]
  | follows same least =>
    refine ⟨fun on => ?_, fun named => ?_, fun on callback => ?_⟩
    · have likewise := comparable_iff.1 same on
      rw [h.callback on] at likewise
      simp [likewise]
    · rw [← comparedNames_congr same]
      exact max?_comparedNames_concat same (h.greatest named) (.inr rfl) (least named) le_rfl
    · rw [unblamedCallbacks_concat, unblamedCallback_of_silent reached, callback]
      simp

/-- A declaration of a group is alike to the baseline that it is compared with. -/
theorem alike_baseline {group : List Declaration}
    (chain : (group ++ [d]).IsChain fun a b => alike policy a b = true)
    (hbase : baselineAfter policy none (group.map .declaration) = some base) :
    alike policy base d = true := by
  obtain ⟨last, hlast, likewise⟩ := exists_last_alike hbase
  rw [likewise d]
  exact (List.isChain_append.1 chain).2.2 last hlast d rfl

/-- Behind the declarations of a group there is a baseline of which all this is known. -/
theorem exists_standing {group : List Declaration} (nonempty : group ≠ [])
    (chain : group.IsChain fun a b => alike policy a b = true) :
    ∃ base, baselineAfter policy none (group.map .declaration) = some base ∧
      Standing policy group base := by
  induction group using List.reverseRecOn with
  | nil => exact absurd rfl nonempty
  | append_singleton group d ih =>
    by_cases first : group = []
    · subst first
      exact ⟨d, rfl, standing_first d⟩
    · obtain ⟨base, hbase, standing⟩ := ih first (List.isChain_append.1 chain).1
      have reached : Place.found policy ⟨group, d⟩ = (compare policy base d).2 := by
        rw [Place.found_eq, hbase]
        rfl
      refine ⟨(compare policy base d).1, ?_,
        standing.step reached (compared_of_alike (alike_baseline chain hbase))⟩
      rw [baselineAfter_concat, hbase]
      rfl

/-- At a place of a group nothing is found if it is the first one, and else a comparison with a
baseline is made of which all this is known. -/
theorem Place.found_cases {members : List Member} {p : Place} (h : p ∈ places policy members) :
    (p.before = [] ∧ p.found policy = []) ∨ ∃ base next,
      Standing policy p.before base ∧ Compared policy base p.here next (p.found policy) := by
  obtain ⟨group, hgroup, hp⟩ := List.mem_flatMap.1 h
  obtain ⟨rest, whole⟩ := exists_rest_of_mem_placesOf hp
  have chain : (p.before ++ [p.here]).IsChain fun a b => alike policy a b = true :=
    (List.isChain_append.1 (whole ▸ isChain_of_mem_groups hgroup)).1
  by_cases first : p.before = []
  · refine .inl ⟨first, ?_⟩
    rw [Place.found_eq, first]
    rfl
  · obtain ⟨base, hbase, standing⟩ := exists_standing first (List.isChain_append.1 chain).1
    refine .inr ⟨base, (compare policy base p.here).1, standing, ?_⟩
    rw [Place.found_eq, hbase]
    exact compared_of_alike (alike_baseline chain hbase)

/-! ### What is found at a place -/

/-- The diagnostics of one layer. -/
def ofLayer (violation : Violation) (found : List Diagnostic) : List Diagnostic :=
  found.filter (·.violation == violation)

/-- Whether a declaration is no callback and stands behind one in its group. -/
def Place.behindCallback (p : Place) : Bool := !p.here.isCallback && p.before.any (·.isCallback)

/-- Whether the name of a declaration is less than the greatest name in front of it that it is
compared with; with callbacks last, what stands behind a callback is not compared at all. -/
def Place.belowGreatest (policy : Policy) (key : Declaration → Text) (p : Place) : Bool :=
  !(policy.callbacksLast && p.behindCallback) &&
    (comparedNames policy key p.here p.before).max?.any (key p.here < ·)

/-- A declaration that is compared with the baseline by name does not stand behind a callback. -/
theorem not_behindCallback_of_comparable {p : Place} (standing : Standing policy p.before base)
    (same : comparable policy base p.here = true) :
    (policy.callbacksLast && p.behindCallback) = false := by
  cases on : policy.callbacksLast with
  | false => rfl
  | true =>
    have likewise := comparable_iff.1 same on
    simp [Place.behindCallback, ← standing.callback on, likewise]

/-- With callbacks last, a callback is blamed at each place behind one: the last of those that are
not blamed for their names. -/
theorem Place.callbacksLast_found {members : List Member} {p : Place}
    (on : policy.callbacksLast = true) (h : p ∈ places policy members) :
    if p.behindCallback then
      ∃ callback, (unblamedCallbacks policy p.before).getLast? = some callback ∧
        ofLayer .callbacksLast (p.found policy) = [.of callback.site .callbacksLast]
    else ofLayer .callbacksLast (p.found policy) = [] := by
  rcases Place.found_cases h with ⟨first, silent⟩ | ⟨base, next, standing, compared⟩
  · simp [Place.behindCallback, first, silent, ofLayer]
  · generalize hfound : p.found policy = found at compared
    cases compared with
    | firstCallback _ _ hc => simp [Place.behindCallback, hc, ofLayer]
    | behindCallback _ hp hc =>
      have behind : p.behindCallback = true := by
        simp [Place.behindCallback, hc, ← standing.callback on, hp]
      rw [if_pos behind]
      exact ⟨base, standing.nearest on hp, rfl⟩
    | below same _ _ =>
      have clear := not_behindCallback_of_comparable standing same
      rw [on, Bool.true_and] at clear
      simp [clear, ofLayer, Diagnostic.of]
    | follows same _ =>
      have clear := not_behindCallback_of_comparable standing same
      rw [on, Bool.true_and] at clear
      simp [clear, ofLayer]

/-- With names checked, a declaration is blamed at its place if it is below the greatest name. -/
theorem Place.alphabetical_found {members : List Member} {p : Place}
    (on : policy.noSortAlphabetically = false) (h : p ∈ places policy members) :
    ofLayer .alphabetical (p.found policy) =
      if p.belowGreatest policy (Declaration.sortName policy) then
        [.of p.here.site .alphabetical] else [] := by
  rcases Place.found_cases h with ⟨first, silent⟩ | ⟨base, next, standing, compared⟩
  · simp [Place.belowGreatest, comparedNames, first, silent, ofLayer]
  · generalize hfound : p.found policy = found at compared
    have greatest := standing.greatest on
    cases compared with
    | firstCallback last hp hc =>
      have noCallback : p.before.any (·.isCallback) = false := by
        rw [← standing.callback last, hp]
      simp [Place.belowGreatest, comparedNames_firstCallback last noCallback hc, ofLayer]
    | behindCallback last hp hc =>
      have behind : p.behindCallback = true := by
        simp [Place.behindCallback, hc, ← standing.callback last, hp]
      simp [Place.belowGreatest, last, behind, ofLayer, Diagnostic.of]
    | below same _ less =>
      have clear := not_behindCallback_of_comparable standing same
      rw [comparedNames_congr same] at greatest
      simp [Place.belowGreatest, clear, greatest, less, ofLayer, Diagnostic.of]
    | follows same least =>
      rw [comparedNames_congr same] at greatest
      simp [Place.belowGreatest, greatest, (least on).not_gt, ofLayer]

/-! ### What is found in a list -/

/-- Where a list gives one item for each item of another that is counted, and else none, the two
correspond one for one. -/
theorem forall₂_filter_flatMap {α β : Type} {R : α → β → Prop} {c : α → Bool} {f : α → List β}
    {l : List α} (h : ∀ a ∈ l, if c a then ∃ b, f a = [b] ∧ R a b else f a = []) :
    List.Forall₂ R (l.filter c) (l.flatMap f) := by
  induction l with
  | nil => exact .nil
  | cons a l ih =>
    have first := h a (List.mem_cons_self ..)
    have others := ih fun b hb => h b (List.mem_cons_of_mem a hb)
    rw [List.flatMap_cons]
    by_cases counted : c a = true
    · rw [if_pos counted] at first
      obtain ⟨b, hb, related⟩ := first
      rw [List.filter_cons_of_pos counted, hb]
      exact .cons related others
    · rw [if_neg counted] at first
      rw [List.filter_cons_of_neg counted, first]
      exact others

/-- The first layer finds nothing at a place of a group. -/
theorem Place.later_found {members : List Member} {p : Place} (h : p ∈ places policy members) :
    later (p.found policy) = p.found policy := by
  rcases Place.found_cases h with ⟨-, silent⟩ | ⟨base, next, -, compared⟩
  · rw [silent]
    rfl
  · generalize p.found policy = found at compared
    cases compared <;> rfl

/-- The later layers go from place to place. -/
theorem later_checkMembers_eq_places (policy : Policy) (members : List Member) :
    later (checkMembers policy members) = (places policy members).flatMap (·.found policy) := by
  have split : later (checkMembers policy members) =
      (places policy members).flatMap fun p => later (p.found policy) := by
    rw [later_checkMembers_eq_flatMap, places, List.flatMap_assoc]
    refine congrArg (List.flatMap · _) (funext fun group => ?_)
    rw [checkGroup_eq_flatMap, later, List.filter_flatMap]
    rfl
  rw [split]
  exact List.flatMap_congr fun p hp => Place.later_found hp

/-- So does each of them. -/
theorem ofLayer_checkMembers {violation : Violation} (h : violation ≠ .requiredFirst)
    (members : List Member) : ofLayer violation (checkMembers policy members) =
      (places policy members).flatMap fun p => ofLayer violation (p.found policy) := by
  have kept : ofLayer violation (later (checkMembers policy members)) =
      ofLayer violation (checkMembers policy members) := by
    rw [ofLayer, later, List.filter_filter, ofLayer]
    refine List.filter_congr fun found _ => ?_
    by_cases same : found.violation = violation
    · simp [same, h]
    · simp [same]
  rw [← kept, later_checkMembers_eq_places, ofLayer, List.filter_flatMap]
  rfl

end Order

/-- **With callbacks last, the diagnostics of that layer correspond, in their order and one for
one, to the declarations that are no callbacks and stand behind one in their group, and each of them
blames the last callback in front that is not itself blamed for its name. What is found at a place
is found in the list too, in the same order, and so are the callbacks that are blamed for their
names.** -/
theorem checkOrder_callbacksLast {policy : Policy} (source : Option SourceText)
    {declarations : Value} {members : List Member} (on : policy.callbacksLast = true)
    (read : membersOf source declarations = .ok members) :
    ∃ found, checkOrder policy source declarations = .ok found ∧
      List.Forall₂
        (fun p diagnostic => ∃ callback, (Order.unblamedCallbacks policy p.before).getLast? =
          some callback ∧ diagnostic = .of callback.site .callbacksLast)
        ((Order.places policy members).filter (·.behindCallback))
        (found.filter (·.violation == .callbacksLast)) ∧
      found.filter (·.violation != .requiredFirst) =
        (Order.places policy members).flatMap (·.found policy) := by
  refine ⟨Order.checkMembers policy members, checkOrder_of_membersOf policy read, ?_, ?_⟩
  · show List.Forall₂ _ _ (Order.ofLayer .callbacksLast (Order.checkMembers policy members))
    rw [Order.ofLayer_checkMembers Violation.noConfusion]
    refine Order.forall₂_filter_flatMap fun p hp => ?_
    have found := Order.Place.callbacksLast_found on hp
    split at found
    · next behind =>
      obtain ⟨callback, good, hfound⟩ := found
      rw [if_pos behind]
      exact ⟨_, hfound, callback, good, rfl⟩
    · next clear =>
      rw [if_neg clear]
      exact found
  · exact Order.later_checkMembers_eq_places policy members

/-- The policy with callbacks last. -/
def callbacksLastPolicy : Policy := ⟨false, true, false, false, false⟩

/-- What a property of a given name without a value is compared by. -/
def namedDeclaration (name : String) : Declaration := ⟨namedProperty name, .ofString name, false⟩

/-- `onBlur` is blamed for its name, and so it is `onChange` that is blamed for `alpha`. The spread
parts `beta` from both. -/
theorem onChange_blamed : ∃ found,
    checkOrder callbacksLastPolicy none (.nodes [namedProperty "onChange", namedProperty "onBlur",
      namedProperty "alpha", bareSpread, namedProperty "beta"]) = .ok found ∧
    found.filter (·.violation == .callbacksLast) =
      [.of (namedProperty "onChange") .callbacksLast] := by
  have read : membersOf none (.nodes [namedProperty "onChange", namedProperty "onBlur",
      namedProperty "alpha", bareSpread, namedProperty "beta"]) =
    .ok [.declaration (namedDeclaration "onChange"), .declaration (namedDeclaration "onBlur"),
      .declaration (namedDeclaration "alpha"), .spread,
      .declaration (namedDeclaration "beta")] := rfl
  obtain ⟨found, check, blamed, -⟩ := checkOrder_callbacksLast none
    (show callbacksLastPolicy.callbacksLast = true from rfl) read
  refine ⟨found, check, ?_⟩
  obtain ⟨diagnostic, others, ⟨callback, last, hd⟩, rest, same⟩ :=
    List.forall₂_cons_left_iff.1 blamed
  have named : some (namedDeclaration "onChange") = some callback := last
  rw [same, List.forall₂_nil_left_iff.1 rest, hd, ← Option.some.inj named]
  rfl

/-- **With names checked, the diagnostics of that layer blame, in their order and once each, the
declarations whose name, in lower case where case is ignored, is less than the greatest name in
front of them in their group; with callbacks last only names of the same class count, and what
stands behind a callback without being one is never blamed.** -/
theorem checkOrder_alphabetical {policy : Policy} (source : Option SourceText)
    {declarations : Value} {members : List Member} (on : policy.noSortAlphabetically = false)
    (read : membersOf source declarations = .ok members) :
    let key (d : Declaration) : Text := if policy.ignoreCase then d.name.lower else d.name
    ∃ found, checkOrder policy source declarations = .ok found ∧
      found.filter (·.violation == .alphabetical) =
        ((Order.places policy members).filter (·.belowGreatest policy key)).map
          fun p => .of p.here.site .alphabetical := by
  intro key
  -- a comparison looks at names by this key
  have looked : key = Declaration.sortName policy := rfl
  refine ⟨Order.checkMembers policy members, checkOrder_of_membersOf policy read, ?_⟩
  show Order.ofLayer .alphabetical (Order.checkMembers policy members) = _
  rw [Order.ofLayer_checkMembers Violation.noConfusion, eq_comm, ← List.forall₂_eq_eq_eq,
    List.forall₂_map_left_iff]
  refine Order.forall₂_filter_flatMap fun p hp => ?_
  rw [Order.Place.alphabetical_found on hp, looked]
  split
  · exact ⟨_, rfl, rfl⟩
  · rfl

/-- Letters are compared in lower case: `area` is below `Beta` although `B` comes before `a`, and
`Beta` is not below `alpha`. `onBlur` is below `onZoom`; `aside` stands behind a callback, and
`able` is the first of its group. -/
theorem area_blamed : ∃ found,
    checkOrder ⟨false, true, true, false, false⟩ none (.nodes [namedProperty "alpha",
      namedProperty "Beta", namedProperty "area", namedProperty "onZoom", namedProperty "aside",
      namedProperty "onBlur", bareSpread, namedProperty "able"]) = .ok found ∧
    found.filter (·.violation == .alphabetical) =
      [.of (namedProperty "area") .alphabetical, .of (namedProperty "onBlur") .alphabetical] := by
  have read : membersOf none (.nodes [namedProperty "alpha", namedProperty "Beta",
      namedProperty "area", namedProperty "onZoom", namedProperty "aside",
      namedProperty "onBlur", bareSpread, namedProperty "able"]) =
    .ok [.declaration (namedDeclaration "alpha"), .declaration (namedDeclaration "Beta"),
      .declaration (namedDeclaration "area"), .declaration (namedDeclaration "onZoom"),
      .declaration (namedDeclaration "aside"), .declaration (namedDeclaration "onBlur"), .spread,
      .declaration (namedDeclaration "able")] := rfl
  obtain ⟨found, check, blamed⟩ := checkOrder_alphabetical none
    (show (⟨false, true, true, false, false⟩ : Policy).noSortAlphabetically = false from rfl) read
  exact ⟨found, check, blamed.trans rfl⟩

end PropOrder
