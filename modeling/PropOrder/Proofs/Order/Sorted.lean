import Mathlib.Data.Prod.Lex
import Mathlib.Order.Lex
import Mathlib.Data.List.Lex
import Mathlib.Order.BooleanAlgebra.Basic
import PropOrder.Order

/-!
# Silence is sortedness

The check of a declaration list compares each declaration with a carried baseline only, in three
layers that keep different baselines. Here the layers become one linear order: a declaration has a
rank under a policy, required before the others, then callbacks after the others, then by name,
and a layer that is switched off contributes nothing to it.

`compare_silent_iff` says that a comparison finds nothing exactly when the rank does not fall, and
`checkOrder_eq_nil_iff_sorted` that a whole list is passed over in silence exactly when the ranks
do not fall between any two of its declarations that no spread parts.
-/

namespace PropOrder

/-! ### The order of texts -/

/-- Texts compare as lists of numbers do. -/
theorem Text.less_iff (t u : Text) : t.less u = true ↔ t < u := by
  induction t generalizing u with
  | nil => cases u <;> simp [Text.less]
  | cons a t ih =>
    cases u with
    | nil => simp [Text.less]
    | cons b u =>
      rw [Text.less, List.cons_lt_cons_iff, ← ih]
      by_cases hab : a < b
      · simp [hab]
      · by_cases hba : b < a
        · have hne : a ≠ b := by omega
          simp [hab, hba, hne]
        · have heq : a = b := by omega
          simp [heq]

/-! ### Ranks -/

namespace Declaration
variable (policy : Policy)

/-- The place that the first layer gives a declaration: required ones come first. -/
def requiredRank (d : Declaration) : Bool := policy.requiredFirst && !d.required

/-- The place that the second layer gives a declaration: callbacks come last. Whether a declaration
is a callback depends on its name as it is written, also where names are looked at in lower case. -/
def callbackRank (d : Declaration) : Bool := policy.callbacksLast && d.isCallback

/-- The place that the third layer gives a declaration: its name, in lower case where case is
ignored. -/
def nameRank (d : Declaration) : Text :=
  if policy.noSortAlphabetically then []
  else if policy.ignoreCase then d.name.lower else d.name

/-- The rank of a declaration: the layers in their order, the first that differs decides. -/
def rank (d : Declaration) : Bool ×ₗ Bool ×ₗ Text :=
  toLex (d.requiredRank policy, toLex (d.callbackRank policy, d.nameRank policy))

end Declaration

namespace Order
variable {policy : Policy} {a b prev curr : Declaration} {rest : List Member}

theorem requiredRank_lt_iff : a.requiredRank policy < b.requiredRank policy ↔
    (policy.requiredFirst && a.required && !b.required) = true := by
  unfold Declaration.requiredRank
  cases policy.requiredFirst <;> cases a.required <;> cases b.required <;> decide

theorem callbackRank_lt_iff : a.callbackRank policy < b.callbackRank policy ↔
    (policy.callbacksLast && !a.isCallback && b.isCallback) = true := by
  unfold Declaration.callbackRank
  cases policy.callbacksLast <;> cases a.isCallback <;> cases b.isCallback <;> decide

theorem nameRank_lt_iff : a.nameRank policy < b.nameRank policy ↔
    (!policy.noSortAlphabetically && (a.sortName policy).less (b.sortName policy)) = true := by
  unfold Declaration.nameRank Declaration.sortName
  cases policy.noSortAlphabetically with
  | false => simp [Text.less_iff]
  | true => simp

/-- A comparison asks for the first layer in which the ranks differ. -/
theorem compare_eq (prev curr : Declaration) : compare policy prev curr =
    if prev.requiredRank policy < curr.requiredRank policy then (curr, [])
    else if curr.requiredRank policy < prev.requiredRank policy then
      (curr, [.of curr.site .requiredFirst])
    else if prev.callbackRank policy < curr.callbackRank policy then (curr, [])
    else if curr.callbackRank policy < prev.callbackRank policy then
      (prev, [.of prev.site .callbacksLast])
    else if curr.nameRank policy < prev.nameRank policy then (prev, [.of curr.site .alphabetical])
    else (curr, []) := by
  simp only [requiredRank_lt_iff, callbackRank_lt_iff, nameRank_lt_iff, compare, Bool.and_right_comm]

/-- A comparison finds nothing exactly when the rank does not fall. -/
theorem compare_silent_iff :
    (compare policy prev curr).2 = [] ↔ prev.rank policy ≤ curr.rank policy := by
  rw [compare_eq, Declaration.rank, Declaration.rank, Prod.Lex.toLex_le_toLex,
    Prod.Lex.toLex_le_toLex]
  -- a layer decides where the layers before it agree
  rcases lt_trichotomy (prev.requiredRank policy) (curr.requiredRank policy) with hr | hr | hr
  · simp [hr]
  · rcases lt_trichotomy (prev.callbackRank policy) (curr.callbackRank policy) with hc | hc | hc
    · simp [hr, hc]
    · by_cases hn : curr.nameRank policy < prev.nameRank policy
      · simp [hr, hc, hn]
      · simp [hr, hc, hn, not_lt.1 hn]
    · simp [hr, hc, hc.not_gt, hc.ne']
  · simp [hr, hr.not_gt, hr.ne']

/-- After a comparison that finds nothing the declaration is the next baseline. -/
theorem compare_fst_of_silent (h : (compare policy prev curr).2 = []) :
    (compare policy prev curr).1 = curr := by
  unfold compare at *
  split_ifs at * <;> simp_all

/-! ### Lists -/

/-- A list is sorted under a policy: of two declarations with no spread between them the later one
has no lower rank. -/
def Sorted (policy : Policy) (members : List Member) : Prop :=
  ∀ (i j : ℕ) (a b : Declaration), i < j → members[i]? = some (.declaration a) →
    members[j]? = some (.declaration b) → (∀ k, i < k → k < j → members[k]? ≠ some .spread) →
    a.rank policy ≤ b.rank policy

theorem sorted_nil : Sorted policy [] := by
  intro i j a b _ ha
  simp at ha

/-- Taking away the first member does no harm. -/
theorem Sorted.tail {m : Member} (h : Sorted policy (m :: rest)) : Sorted policy rest := by
  intro i j a b hij ha hb clear
  refine h (i + 1) (j + 1) a b (by omega) ha hb fun k hik hkj => ?_
  obtain ⟨k, rfl⟩ : ∃ l, k = l + 1 := ⟨k - 1, by omega⟩
  exact clear k (by omega) (by omega)

theorem sorted_spread_cons : Sorted policy (.spread :: rest) ↔ Sorted policy rest := by
  refine ⟨Sorted.tail, fun h i j a b hij ha hb clear => ?_⟩
  cases i with
  | zero => simp at ha
  | succ i =>
    obtain ⟨j, rfl⟩ : ∃ l, j = l + 1 := ⟨j - 1, by omega⟩
    exact h i j a b (by omega) ha hb fun k hik hkj => clear (k + 1) (by omega) (by omega)

theorem sorted_singleton : Sorted policy [.declaration a] := by
  intro i j _ _ hij _ hb
  obtain ⟨j, rfl⟩ : ∃ l, j = l + 1 := ⟨j - 1, by omega⟩
  simp at hb

/-- Nothing in front of a spread is compared with anything behind it. -/
theorem sorted_declaration_spread :
    Sorted policy (.declaration a :: .spread :: rest) ↔ Sorted policy rest := by
  refine ⟨fun h => h.tail.tail, fun h i j x y hij hx hy clear => ?_⟩
  cases i with
  | zero =>
    rcases Nat.lt_or_ge 1 j with hj | hj
    -- the spread would stand between the two
    · exact absurd rfl (clear 1 (by omega) hj)
    · obtain rfl : j = 1 := by omega
      simp at hy
  | succ i =>
    obtain ⟨j, rfl⟩ : ∃ l, j = l + 1 := ⟨j - 1, by omega⟩
    exact sorted_spread_cons.2 h i j x y (by omega) hx hy
      fun k hik hkj => clear (k + 1) (by omega) (by omega)

/-- Neighbours decide: ranks are ordered transitively. -/
theorem sorted_declaration_declaration :
    Sorted policy (.declaration a :: .declaration b :: rest) ↔
      a.rank policy ≤ b.rank policy ∧ Sorted policy (.declaration b :: rest) := by
  constructor
  · intro h
    exact ⟨h 0 1 a b (by omega) rfl rfl fun k _ _ => by omega, h.tail⟩
  · rintro ⟨hab, h⟩ i j x y hij hx hy clear
    obtain ⟨j, rfl⟩ : ∃ l, j = l + 1 := ⟨j - 1, by omega⟩
    cases i with
    | succ i => exact h i j x y (by omega) hx hy fun k hik hkj => clear (k + 1) (by omega) (by omega)
    | zero =>
      obtain rfl : a = x := by simpa using hx
      cases j with
      | zero =>
        obtain rfl : b = y := by simpa using hy
        exact hab
      | succ j =>
        -- what comes later is no lower than the neighbour, and so no lower than the first one
        have hby : b.rank policy ≤ y.rank policy :=
          h 0 (j + 1) b y (by omega) rfl hy fun k hik hkj => clear (k + 1) (by omega) (by omega)
        exact hab.trans hby

/-- From a baseline on, silence says that the list with the baseline in front is sorted. The
induction carries the baseline, which moves with every silent comparison. -/
theorem checkFrom_eq_nil_iff (base : Option Declaration) (members : List Member) :
    checkFrom policy base members = [] ↔
      Sorted policy (base.toList.map Member.declaration ++ members) := by
  induction members generalizing base with
  | nil =>
    cases base with
    | none => exact ⟨fun _ => sorted_nil, fun _ => rfl⟩
    | some prev => exact ⟨fun _ => sorted_singleton, fun _ => rfl⟩
  | cons m rest ih =>
    cases base with
    | none =>
      cases m with
      | spread => exact (ih none).trans sorted_spread_cons.symm
      | declaration d => exact ih (some d)
    | some prev =>
      cases m with
      | spread => exact (ih none).trans sorted_declaration_spread.symm
      | declaration d =>
        show (compare policy prev d).2 ++ checkFrom policy (some (compare policy prev d).1) rest = []
          ↔ Sorted policy (.declaration prev :: .declaration d :: rest)
        -- silence makes the declaration the next baseline
        rw [sorted_declaration_declaration, ← compare_silent_iff, List.append_eq_nil_iff]
        refine and_congr_right fun silent => ?_
        rw [compare_fst_of_silent silent]
        exact ih (some d)

end Order

/-- The members of a declaration list, with what their place in the order depends on. -/
def membersOf (source : Option SourceText) (declarations : Value) :
    Except Fault (List Member) := do
  (← declarations.items).mapM (Member.ofEntry source)

theorem checkOrder_eq (policy : Policy) (source : Option SourceText) (declarations : Value) :
    checkOrder policy source declarations =
      return Order.checkMembers policy (← membersOf source declarations) := by
  unfold checkOrder membersOf
  cases declarations.items with
  | error fault => rfl
  | ok entries => rfl

/-- A list that can be read has an answer. -/
theorem checkOrder_of_membersOf (policy : Policy) {source : Option SourceText}
    {declarations : Value} {members : List Member}
    (read : membersOf source declarations = .ok members) :
    checkOrder policy source declarations = .ok (Order.checkMembers policy members) := by
  rw [checkOrder_eq, read]
  rfl

/-- **A declaration list whose names can be read is passed over in silence exactly when it is
sorted.** -/
theorem checkOrder_eq_nil_iff_sorted (policy : Policy) (source : Option SourceText)
    {declarations : Value} {members : List Member}
    (read : membersOf source declarations = .ok members) :
    ∃ found, checkOrder policy source declarations = .ok found ∧
      (found = [] ↔ Order.Sorted policy members) := by
  refine ⟨Order.checkMembers policy members, checkOrder_of_membersOf policy read, ?_⟩
  exact Order.checkFrom_eq_nil_iff none members

/-- A property without a value whose key is a given name. -/
def namedProperty (name : String) : Site :=
  .root (.mk ⟨"Property", default, none⟩
    [("key", .node (.mk ⟨"Identifier", default, none⟩ [("name", .string name)]))])

/-- A property of a given name whose value is a member called `isRequired`. -/
def requiredProperty (name : String) : Site :=
  .root (.mk ⟨"Property", default, none⟩
    [("key", .node (.mk ⟨"Identifier", default, none⟩ [("name", .string name)])),
      ("value", .node (.mk ⟨"MemberExpression", default, none⟩
        [("property", .node (.mk ⟨"Identifier", default, none⟩
          [("name", .string "isRequired")]))]))])

/-- A spread without anything in it. -/
def bareSpread : Site := .root (.mk ⟨"SpreadElement", default, none⟩ [])

/-- `zeta` is required and `onBlur` a callback, and `area` begins anew behind the spread. What is
left are `alpha` and `Zoom`, which are in order in lower case only. -/
theorem sorted_in_lower_case : ∃ members,
    membersOf none (.nodes [requiredProperty "zeta", namedProperty "alpha", namedProperty "Zoom",
      namedProperty "onBlur", bareSpread, namedProperty "area"]) = .ok members ∧
    Order.Sorted ⟨true, true, true, false, false⟩ members ∧
    ¬ Order.Sorted ⟨true, true, false, false, false⟩ members := by
  have read : membersOf none (.nodes [requiredProperty "zeta", namedProperty "alpha",
    namedProperty "Zoom", namedProperty "onBlur", bareSpread, namedProperty "area"]) = .ok _ := rfl
  obtain ⟨found, check, silent⟩ :=
    checkOrder_eq_nil_iff_sorted ⟨true, true, true, false, false⟩ none read
  obtain ⟨found', check', silent'⟩ :=
    checkOrder_eq_nil_iff_sorted ⟨true, true, false, false, false⟩ none read
  refine ⟨_, read, silent.1 ?_, fun sorted => ?_⟩
  · exact (Except.ok.inj check).symm
  · rw [silent'.2 sorted] at check'
    cases check'

end PropOrder
