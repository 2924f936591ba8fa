import PropOrder.Proofs.Order.Blame
import PropOrder.Proofs.Order.Sorted

/-!
# A spread parts a check

A check carries one thing from a member of a list to the next: the baseline. What is found in two
lists put together is what is found in the first, and then what is found in the second from the
baseline that the first leaves (`checkFrom_append`). Behind a spread there is no baseline, and so
a spread parts a list into two that are checked apart (`checkOrder_append_spread`).

A check may as well look the baseline up ahead of time, at first and behind each spread. The member
that comes next is then compared with itself, which finds nothing (`checkMembers_eq_checkAhead`).
-/

namespace PropOrder

namespace Order
variable {policy : Policy} {base : Option Declaration} {m : Member}

/-! ### The baseline -/

/-- What is found when a member is reached with a baseline. -/
def foundAt (policy : Policy) : Option Declaration → Member → List Diagnostic
  | some prev, .declaration d => (compare policy prev d).2
  | _, _ => []

/-- The baseline behind a member. -/
def nextBaseline (policy : Policy) : Option Declaration → Member → Option Declaration
  | _, .spread => none
  | none, .declaration d => some d
  | some prev, .declaration d => some (compare policy prev d).1

/-- The baseline behind the members of a list. -/
def baselineAfter (policy : Policy) (base : Option Declaration) (members : List Member) :
    Option Declaration :=
  members.foldl (nextBaseline policy) base

theorem checkFrom_cons (rest : List Member) : checkFrom policy base (m :: rest) =
    foundAt policy base m ++ checkFrom policy (nextBaseline policy base m) rest := by
  cases m with
  | spread => cases base <;> rfl
  | declaration d => cases base <;> rfl

theorem checkFrom_spread_cons (rest : List Member) :
    checkFrom policy base (.spread :: rest) = checkMembers policy rest := by
  cases base <;> rfl

/-- A list is checked on from the baseline that the list in front of it leaves. -/
theorem checkFrom_append (base : Option Declaration) (xs ys : List Member) :
    checkFrom policy base (xs ++ ys) =
      checkFrom policy base xs ++ checkFrom policy (baselineAfter policy base xs) ys := by
  induction xs generalizing base with
  | nil => cases base <;> rfl
  | cons m xs ih =>
    rw [List.cons_append, checkFrom_cons, checkFrom_cons, ih, List.append_assoc]
    rfl

/-- The members in front of a spread and those behind it are checked apart. -/
theorem checkMembers_append_spread (xs ys : List Member) :
    checkMembers policy (xs ++ .spread :: ys) =
      checkMembers policy xs ++ checkMembers policy ys := by
  rw [checkMembers, checkFrom_append, checkFrom_spread_cons]
  rfl

/-- In a list of spreads nothing is found. -/
theorem checkMembers_replicate_spread (policy : Policy) (n : ℕ) :
    checkMembers policy (List.replicate n .spread) = [] := by
  induction n with
  | zero => rfl
  | succ n ih => rw [List.replicate_succ, checkMembers, checkFrom_spread_cons, ih]

end Order

/-! ### Looking ahead -/

namespace Order
variable {policy : Policy}

/-- A declaration is never blamed beside itself, and is then the baseline. -/
theorem compare_self (policy : Policy) (d : Declaration) : compare policy d d = (d, []) := by
  rw [compare_eq]
  simp only [lt_self_iff_false, if_false]

/-- Check the members of a list in which the baseline is looked up ahead of time: at first and
behind every spread it is the member that comes next, which is then compared with itself. -/
def checkAhead (policy : Policy) : Option Member → List Member → List Diagnostic
  | _, [] => []
  | _, .spread :: rest => checkAhead policy rest.head? rest
  | some (.declaration prev), .declaration d :: rest =>
    let (next, found) := compare policy prev d
    found ++ checkAhead policy (some (.declaration next)) rest
  | base, .declaration _ :: rest => checkAhead policy base rest

/-- Looking ahead for the baseline makes no difference: with a declaration as the baseline, and
with the member that comes next. The two are one induction, as a spread leads from the first to the
second and a declaration back. -/
theorem checkAhead_eq_checkFrom (members : List Member) :
    (∀ d, checkAhead policy (some (.declaration d)) members = checkFrom policy (some d) members) ∧
      checkAhead policy members.head? members = checkFrom policy none members := by
  induction members with
  | nil => exact ⟨fun _ => rfl, rfl⟩
  | cons m rest ih =>
    obtain ⟨carried, ahead⟩ := ih
    cases m with
    | spread => exact ⟨fun _ => ahead, ahead⟩
    | declaration d =>
      constructor
      · intro prev
        show (compare policy prev d).2 ++
            checkAhead policy (some (.declaration (compare policy prev d).1)) rest =
          (compare policy prev d).2 ++ checkFrom policy (some (compare policy prev d).1) rest
        rw [carried]
      · show (compare policy d d).2 ++
            checkAhead policy (some (.declaration (compare policy d d).1)) rest =
          checkFrom policy (some d) rest
        rw [compare_self, carried, List.nil_append]

/-- A list is checked as if the baseline were looked up ahead of time. -/
theorem checkMembers_eq_checkAhead (policy : Policy) (members : List Member) :
    checkMembers policy members = checkAhead policy members.head? members :=
  (checkAhead_eq_checkFrom members).2.symm

end Order

/-! ### Reading a list -/

theorem Member.ofEntry_spread (source : Option SourceText) {s : Site} (spread : s.isSpread = true) :
    Member.ofEntry source (.node s) = .ok .spread := by
  simp [Member.ofEntry, Entry.site, spread]

/-- The members of a list with a spread in it are read in front of the spread and then behind. -/
theorem membersOf_append_spread (source : Option SourceText) (xs ys : List (Entry Site)) {s : Site}
    (spread : s.isSpread = true) : membersOf source (.many (xs ++ .node s :: ys)) = do
      let front ← membersOf source (.many xs)
      let back ← membersOf source (.many ys)
      return front ++ .spread :: back := by
  show (xs ++ .node s :: ys).mapM (Member.ofEntry source) = do
    let front ← xs.mapM (Member.ofEntry source)
    let back ← ys.mapM (Member.ofEntry source)
    return front ++ .spread :: back
  rw [List.mapM_append]
  cases xs.mapM (Member.ofEntry source) with
  | error fault => rfl
  | ok front =>
    rw [ok_bind, ok_bind, List.mapM_cons, Member.ofEntry_spread source spread, ok_bind]
    cases ys.mapM (Member.ofEntry source) with
    | error fault => rfl
    | ok back => rfl

theorem membersOf_spreads (source : Option SourceText) {spreads : List Site}
    (h : ∀ s ∈ spreads, s.isSpread = true) :
    membersOf source (.nodes spreads) = .ok (List.replicate spreads.length .spread) := by
  show (spreads.map Entry.node).mapM (Member.ofEntry source) = _
  induction spreads with
  | nil => rfl
  | cons s spreads ih =>
    have first := Member.ofEntry_spread source (h s (List.mem_cons_self ..))
    have others := ih fun t ht => h t (List.mem_cons_of_mem s ht)
    rw [List.map_cons, List.mapM_cons, first, ok_bind, others]
    rfl

/-- **A spread parts the check of a list: what is found, or the fault, is that of the members in
front of it and then that of the members behind it, whichever spread it is. No spread is ever
blamed, and where there are only spreads nothing is found.** -/
theorem checkOrder_append_spread (policy : Policy) (source : Option SourceText)
    (xs ys : List (Entry Site)) {s : Site} (spread : s.isSpread = true) :
    (checkOrder policy source (.many (xs ++ .node s :: ys)) = do
        let front ← checkOrder policy source (.many xs)
        let back ← checkOrder policy source (.many ys)
        return front ++ back) ∧
      (∀ found, checkOrder policy source (.many (xs ++ .node s :: ys)) = .ok found →
        ∀ d ∈ found, d.site.isSpread = false) ∧
      ∀ spreads : List Site, (∀ t ∈ spreads, t.isSpread = true) →
        checkOrder policy source (.nodes spreads) = .ok [] := by
  refine ⟨?_, fun found h d hd => (mem_checkOrder h d hd).2.1, fun spreads h => ?_⟩
  · rw [checkOrder_eq, checkOrder_eq, checkOrder_eq, membersOf_append_spread source xs ys spread]
    cases membersOf source (.many xs) with
    | error fault => rfl
    | ok front =>
      cases membersOf source (.many ys) with
      | error fault => rfl
      | ok back => exact congrArg Except.ok (Order.checkMembers_append_spread front back)
  · rw [checkOrder_eq, membersOf_spreads source h]
    exact congrArg Except.ok (Order.checkMembers_replicate_spread policy _)

/-- With spreads at both ends and two side by side, `alpha` is compared with `beta` and not with
`gamma`. -/
theorem bareSpread_parts : bareSpread.isSpread = true ∧
    checkOrder .standard none (.nodes ([bareSpread, namedProperty "gamma", bareSpread] ++
      bareSpread :: [namedProperty "beta", namedProperty "alpha", bareSpread])) =
        .ok [.of (namedProperty "alpha") .alphabetical] := by
  refine ⟨rfl, ?_⟩
  have parts := (checkOrder_append_spread .standard none
    ([bareSpread, namedProperty "gamma", bareSpread].map .node)
    ([namedProperty "beta", namedProperty "alpha", bareSpread].map .node)
    (show bareSpread.isSpread = true from rfl)).1
  exact parts.trans rfl

end PropOrder
