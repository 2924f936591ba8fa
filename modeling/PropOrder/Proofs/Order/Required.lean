import PropOrder.Proofs.Order.Blame
import PropOrder.Proofs.Order.Sorted

/-!
# Whom the first layer blames

The first layer blames a required declaration exactly when its neighbour in front is a declaration
that is not required (`checkOrder_requiredFirst`). The baseline may lie many places back, since the
other layers leave it where it was, but a comparison always leaves a baseline that is required just
as the declaration just seen is (`compare_fst_required`), and so the baseline speaks for the
neighbour.
-/

namespace PropOrder

namespace Order
variable {policy : Policy} {prev curr : Declaration} {d e : Declaration} {rest : List Member}

/-! ### One comparison -/

/-- Where a declaration and its baseline differ in being required, the first layer decides. -/
theorem compare_of_required_ne (on : policy.requiredFirst = true)
    (h : prev.required ≠ curr.required) : compare policy prev curr =
      (curr, if curr.required then [.of curr.site .requiredFirst] else []) := by
  unfold compare
  cases hc : curr.required with
  | true =>
    have hp : prev.required = false := by simpa [hc] using h
    simp [on, hp]
  | false =>
    have hp : prev.required = true := by simpa [hc] using h
    simp [on, hp]

/-- Where they agree, the first layer finds nothing. -/
theorem violation_ne_of_required_eq (h : prev.required = curr.required) :
    ∀ found ∈ (compare policy prev curr).2, found.violation ≠ .requiredFirst := by
  intro found hfound
  unfold compare at hfound
  rw [h] at hfound
  split_ifs at hfound with _ required _ callback below
  · cases hfound
  · simp only [Bool.and_eq_true, Bool.not_eq_true'] at required
    rw [required.1.2] at required
    cases required.2
  · cases hfound
  · rw [List.mem_singleton.1 hfound]
    exact Violation.noConfusion
  · rw [List.mem_singleton.1 hfound]
    exact Violation.noConfusion
  · cases hfound

/-- The baseline that a comparison leaves is required just as the declaration just seen. -/
theorem compare_fst_required (on : policy.requiredFirst = true) (prev curr : Declaration) :
    (compare policy prev curr).1.required = curr.required := by
  by_cases h : prev.required = curr.required
  · rcases compare_fst_eq policy prev curr with base | base
    · rw [base, h]
    · rw [base]
  · rw [compare_of_required_ne on h]

/-- The diagnostics of the first layer. -/
def ofRequiredFirst (found : List Diagnostic) : List Diagnostic :=
  found.filter (·.violation == .requiredFirst)

/-- What the first layer finds in a comparison. -/
theorem ofRequiredFirst_compare (on : policy.requiredFirst = true) (prev curr : Declaration) :
    ofRequiredFirst (compare policy prev curr).2 =
      if !prev.required && curr.required then [.of curr.site .requiredFirst] else [] := by
  by_cases h : prev.required = curr.required
  · have none : ofRequiredFirst (compare policy prev curr).2 = [] :=
      List.filter_eq_nil_iff.2 fun found hfound => by
        simpa using violation_ne_of_required_eq h found hfound
    rw [none, h]
    simp
  · rw [compare_of_required_ne on h]
    cases hc : curr.required with
    | true =>
      have hp : prev.required = false := by simpa [hc] using h
      simp [ofRequiredFirst, Diagnostic.of, hp]
    | false => simp [ofRequiredFirst]

/-! ### Lists -/

/-- The declaration that the first layer blames where two members stand side by side. -/
def blamedBehind : Member → Member → Option Declaration
  | .declaration prev, .declaration curr =>
    if !prev.required && curr.required then some curr else none
  | _, _ => none

/-- The required declarations of a list whose neighbour in front is a declaration that is not
required, in the order of the list. -/
def requiredBehindOther (members : List Member) : List Declaration :=
  (members.zip members.tail).filterMap fun pair => blamedBehind pair.1 pair.2

theorem requiredBehindOther_cons_cons (m m' : Member) (rest : List Member) :
    requiredBehindOther (m :: m' :: rest) =
      (blamedBehind m m').toList ++ requiredBehindOther (m' :: rest) := by
  rw [requiredBehindOther, List.tail_cons, List.zip_cons_cons, List.filterMap_cons]
  dsimp only
  cases blamedBehind m m' with
  | none => rfl
  | some d => rfl

/-- A spread is no neighbour that counts. -/
theorem requiredBehindOther_spread_cons (rest : List Member) :
    requiredBehindOther (.spread :: rest) = requiredBehindOther rest := by
  cases rest with
  | nil => rfl
  | cons m rest => rw [requiredBehindOther_cons_cons]; cases m <;> rfl

/-- From a baseline on, the first layer blames as if the baseline were the neighbour in front. The
induction carries the neighbour beside the baseline, which is required just as that is. -/
theorem ofRequiredFirst_checkFrom (on : policy.requiredFirst = true) (members : List Member)
    (base neighbour : Option Declaration)
    (same : base.map (·.required) = neighbour.map (·.required)) :
    ofRequiredFirst (checkFrom policy base members) =
      (requiredBehindOther (neighbour.toList.map .declaration ++ members)).map
        fun d => .of d.site .requiredFirst := by
  induction members generalizing base neighbour with
  | nil =>
    cases base with
    | none => cases neighbour with
      | none => rfl
      | some e => cases same
    | some d => cases neighbour with
      | none => cases same
      | some e => rfl
  | cons m rest ih =>
    cases m with
    | spread =>
      have drop : requiredBehindOther (neighbour.toList.map .declaration ++ .spread :: rest) =
          requiredBehindOther rest := by
        cases neighbour with
        | none => exact requiredBehindOther_spread_cons rest
        | some e =>
          show requiredBehindOther (.declaration e :: .spread :: rest) = _
          rw [requiredBehindOther_cons_cons, requiredBehindOther_spread_cons]
          rfl
      have after : checkFrom policy base (.spread :: rest) = checkFrom policy none rest := by
        cases base <;> rfl
      rw [drop, after]
      exact ih none none rfl
    | declaration d =>
      cases base with
      | none =>
        cases neighbour with
        | none => exact ih (some d) (some d) rfl
        | some e => cases same
      | some prev =>
        cases neighbour with
        | none => cases same
        | some e =>
          have mark : prev.required = e.required := Option.some.inj same
          have next : ofRequiredFirst (checkFrom policy (some (compare policy prev d).1) rest) =
              (requiredBehindOther (.declaration d :: rest)).map
                fun d => .of d.site .requiredFirst :=
            ih _ (some d) (congrArg some (compare_fst_required on prev d))
          show ofRequiredFirst ((compare policy prev d).2 ++
              checkFrom policy (some (compare policy prev d).1) rest) =
            (requiredBehindOther (.declaration e :: .declaration d :: rest)).map _
          rw [requiredBehindOther_cons_cons, List.map_append, ← next, ofRequiredFirst,
            List.filter_append]
          congr 1
          rw [← ofRequiredFirst, ofRequiredFirst_compare on, mark, blamedBehind]
          split <;> rfl

end Order

/-- **With required declarations first, those are blamed for it whose neighbour in front is a
declaration that is not required, in the order of the list and once each.** -/
theorem checkOrder_requiredFirst {policy : Policy} (source : Option SourceText)
    {declarations : Value} {members : List Member} (on : policy.requiredFirst = true)
    (read : membersOf source declarations = .ok members) :
    ∃ found, checkOrder policy source declarations = .ok found ∧
      found.filter (·.violation == .requiredFirst) =
        (Order.requiredBehindOther members).map fun d => .of d.site .requiredFirst := by
  refine ⟨Order.checkMembers policy members, checkOrder_of_membersOf policy read, ?_⟩
  exact Order.ofRequiredFirst_checkFrom on members none none rfl

/-- The policy with required declarations first and callbacks last. -/
def layeredPolicy : Policy := ⟨true, true, false, false, false⟩

/-- The callback stays the baseline, two places in front of the declaration that is blamed. -/
theorem requiredProperty_blamed : ∃ found,
    checkOrder layeredPolicy none (.nodes [namedProperty "onBlur", namedProperty "beta",
      requiredProperty "alpha", requiredProperty "gamma"]) = .ok found ∧
    found.filter (·.violation == .requiredFirst) =
      [.of (requiredProperty "alpha") .requiredFirst] := by
  have read : membersOf none (.nodes [namedProperty "onBlur", namedProperty "beta",
      requiredProperty "alpha", requiredProperty "gamma"]) = .ok _ := rfl
  exact checkOrder_requiredFirst none (show layeredPolicy.requiredFirst = true from rfl) read

end PropOrder
