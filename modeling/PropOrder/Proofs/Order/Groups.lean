import Mathlib.Data.List.SplitBy
import PropOrder.Proofs.Order.Required
import PropOrder.Proofs.Order.Spread

/-!
# Groups

The groups of a declaration list are what it falls into when it is parted at its spreads and, with
required declarations first, wherever being required changes. The first layer speaks only where
one group follows another, and the others never look beyond a group: what they find in a list they
find in its groups, one after the other (`later_checkMembers_eq_flatMap`).

In a group every declaration has a place, behind the declarations before it, and a check of the
group finds what it finds when it reaches the places (`checkGroup_eq_flatMap`).
-/

namespace PropOrder

/-- Whether a member is a spread. -/
def Member.isSpread : Member → Bool
  | .spread => true
  | .declaration _ => false

/-- The declaration that a member is. -/
def Member.declaration? : Member → Option Declaration
  | .spread => none
  | .declaration d => some d

namespace Order
variable {policy : Policy} {d : Declaration} {group : List Declaration} {rest : List Member}

/-- The lists of declarations between the spreads of a list. -/
def sections (members : List Member) : List (List Declaration) :=
  (members.splitOnP Member.isSpread).map (List.filterMap Member.declaration?)

/-- Whether two declarations may stand in one group. -/
def alike (policy : Policy) (a b : Declaration) : Bool :=
  !policy.requiredFirst || a.required == b.required

/-- The groups of a list: parted at the spreads and, with required declarations first, wherever
being required changes. -/
def groups (policy : Policy) (members : List Member) : List (List Declaration) :=
  (sections members).flatMap (List.splitBy (alike policy))

/-- The check of a list of declarations without spreads. -/
def checkGroup (policy : Policy) (group : List Declaration) : List Diagnostic :=
  checkMembers policy (group.map .declaration)

/-- What the layers after the first find. -/
def later (found : List Diagnostic) : List Diagnostic :=
  found.filter (·.violation != .requiredFirst)

@[simp] theorem later_append (xs ys : List Diagnostic) : later (xs ++ ys) = later xs ++ later ys :=
  List.filter_append ..

theorem alike_iff {a b : Declaration} :
    alike policy a b = true ↔ (policy.requiredFirst = true → a.required = b.required) := by
  cases h : policy.requiredFirst <;> simp [alike, h]

/-! ### Sections -/

theorem sections_nil : sections [] = [[]] := rfl

theorem sections_spread_cons : sections (.spread :: rest) = [] :: sections rest := by
  simp [sections, List.splitOnP_cons_eq_if_modifyHead, Member.isSpread]

theorem sections_declaration_cons :
    sections (.declaration d :: rest) = (sections rest).modifyHead (d :: ·) := by
  have plain : ¬(Member.declaration d).isSpread = true := Bool.false_ne_true
  rw [sections, List.splitOnP_cons_eq_if_modifyHead, if_neg plain, sections]
  cases rest.splitOnP Member.isSpread with
  | nil => rfl
  | cons part parts => rfl

/-- From a baseline on, the first section is checked from there and the others by themselves. -/
theorem checkFrom_eq_sections (policy : Policy) (base : Option Declaration)
    (members : List Member) :
    ∃ first others, sections members = first :: others ∧ checkFrom policy base members =
      checkFrom policy base (first.map .declaration) ++ others.flatMap (checkGroup policy) := by
  induction members generalizing base with
  | nil => exact ⟨[], [], sections_nil, by simp⟩
  | cons m rest ih =>
    cases m with
    | spread =>
      obtain ⟨first, others, parted, found⟩ := ih none
      refine ⟨[], first :: others, by rw [sections_spread_cons, parted], ?_⟩
      have silent : checkFrom policy base ([].map Member.declaration) = [] := by cases base <;> rfl
      rw [checkFrom_spread_cons, checkMembers, found, silent]
      rfl
    | declaration d =>
      obtain ⟨first, others, parted, found⟩ := ih (nextBaseline policy base (.declaration d))
      refine ⟨d :: first, others, by rw [sections_declaration_cons, parted]; rfl, ?_⟩
      rw [checkFrom_cons, found, List.map_cons, checkFrom_cons, List.append_assoc]

theorem checkMembers_eq_flatMap_sections (policy : Policy) (members : List Member) :
    checkMembers policy members = (sections members).flatMap (checkGroup policy) := by
  obtain ⟨first, others, parted, found⟩ := checkFrom_eq_sections policy none members
  rw [checkMembers, found, parted]
  rfl

/-! ### Groups of a section -/

/-- What joins where two neighbours are not related is put together from the parts of a list that is
parted only there. -/
theorem eq_flatMap_of_isChain {α β : Type} {r : α → α → Bool} {f : List α → List β}
    (nil : f [] = [])
    (join : ∀ l m, (∀ x ∈ l.getLast?, ∀ y ∈ m.head?, r x y = false) → f (l ++ m) = f l ++ f m)
    {parts : List (List α)} (nonempty : [] ∉ parts)
    (parted : parts.IsChain fun a b => ∃ ha hb, r (a.getLast ha) (b.head hb) = false) :
    f parts.flatten = parts.flatMap f := by
  induction parts with
  | nil => exact nil
  | cons part parts ih =>
    rw [List.flatten_cons, List.flatMap_cons, join,
      ih (fun h => nonempty (List.mem_cons_of_mem part h)) parted.tail]
    intro x hx y hy
    cases parts with
    | nil => cases hy
    | cons next parts =>
      obtain ⟨hpart, hnext, differ⟩ := (List.isChain_cons_cons.1 parted).1
      rw [List.getLast?_eq_some_getLast hpart, Option.mem_some_iff] at hx
      rw [List.flatten_cons, List.head?_append_of_ne_nil _ hnext, List.head?_eq_some_head hnext,
        Option.mem_some_iff] at hy
      rwa [← hx, ← hy]

/-- So it is put together from the runs of related neighbours. -/
theorem eq_flatMap_splitBy {α β : Type} {r : α → α → Bool} {f : List α → List β} (nil : f [] = [])
    (join : ∀ l m, (∀ x ∈ l.getLast?, ∀ y ∈ m.head?, r x y = false) → f (l ++ m) = f l ++ f m)
    (l : List α) : f l = (l.splitBy r).flatMap f := by
  have joined := eq_flatMap_of_isChain nil join (List.nil_notMem_splitBy r l)
    (List.isChain_getLast_head_splitBy r l)
  rwa [List.flatten_splitBy] at joined

theorem baselineAfter_concat (group : List Declaration) (d : Declaration) :
    baselineAfter policy none ((group ++ [d]).map .declaration) =
      nextBaseline policy (baselineAfter policy none (group.map .declaration))
        (.declaration d) := by
  simp [baselineAfter]

/-- The baseline behind a list of declarations is alike to what the last of them is alike to. -/
theorem exists_last_alike {base : Declaration}
    (hbase : baselineAfter policy none (group.map .declaration) = some base) :
    ∃ last ∈ group.getLast?, ∀ d, alike policy base d = alike policy last d := by
  induction group using List.reverseRecOn with
  | nil => cases hbase
  | append_singleton group last _ =>
    refine ⟨last, List.getLast?_concat, fun d => ?_⟩
    rw [baselineAfter_concat] at hbase
    cases front : baselineAfter policy none (group.map .declaration) with
    | none =>
      rw [front] at hbase
      rw [← Option.some.inj hbase]
    | some prev =>
      rw [front] at hbase
      rw [← Option.some.inj hbase]
      -- the first layer never leaves a baseline that is not required just as the last one
      cases on : policy.requiredFirst with
      | false => simp [alike, on]
      | true => rw [alike, alike, compare_fst_required on prev last]

/-- Where the first layer speaks, the others do not, and the declaration is the baseline of what
follows. -/
theorem compare_of_not_alike {base : Declaration} (unlike : alike policy base d = false) :
    later (compare policy base d).2 = [] ∧ (compare policy base d).1 = d := by
  simp only [alike, Bool.or_eq_false_iff, Bool.not_eq_false', beq_eq_false_iff_ne] at unlike
  rw [compare_of_required_ne unlike.1 unlike.2]
  cases d.required with
  | true => exact ⟨rfl, rfl⟩
  | false => exact ⟨rfl, rfl⟩

/-- Where two neighbours are not alike, the later layers begin anew. -/
theorem later_checkGroup_append (xs ys : List Declaration)
    (parted : ∀ a ∈ xs.getLast?, ∀ b ∈ ys.head?, alike policy a b = false) :
    later (checkGroup policy (xs ++ ys)) =
      later (checkGroup policy xs) ++ later (checkGroup policy ys) := by
  rw [checkGroup, List.map_append, checkMembers, checkFrom_append, later_append]
  refine congrArg _ ?_
  cases hbase : baselineAfter policy none (xs.map .declaration) with
  | none => rfl
  | some base =>
    cases ys with
    | nil => rfl
    | cons d ys =>
      obtain ⟨last, hlast, likewise⟩ := exists_last_alike hbase
      have unlike : alike policy base d = false := (likewise d).trans (parted last hlast d rfl)
      obtain ⟨silent, next⟩ := compare_of_not_alike unlike
      show later ((compare policy base d).2 ++
          checkFrom policy (some (compare policy base d).1) (ys.map .declaration)) =
        later (checkFrom policy (some d) (ys.map .declaration))
      rw [later_append, silent, next, List.nil_append]

/-- The later layers work group by group. -/
theorem later_checkMembers_eq_flatMap (policy : Policy) (members : List Member) :
    later (checkMembers policy members) =
      (groups policy members).flatMap fun group => later (checkGroup policy group) := by
  rw [checkMembers_eq_flatMap_sections, groups, List.flatMap_assoc, later, List.filter_flatMap]
  refine congrArg (List.flatMap · _) (funext fun part => ?_)
  exact eq_flatMap_splitBy (f := fun group => later (checkGroup policy group)) rfl
    later_checkGroup_append part

/-- Neighbours in a group are alike. -/
theorem isChain_of_mem_groups {members : List Member} (h : group ∈ groups policy members) :
    group.IsChain fun a b => alike policy a b = true := by
  obtain ⟨part, -, h⟩ := List.mem_flatMap.1 h
  exact List.isChain_of_mem_splitBy h

/-! ### Places -/

/-- A declaration in a group. -/
structure Place where
  /-- The declarations before it in its group. -/
  before : List Declaration
  /-- The declaration. -/
  here : Declaration

/-- The places of the declarations that follow others. -/
def placesFrom (before : List Declaration) : List Declaration → List Place
  | [] => []
  | d :: rest => ⟨before, d⟩ :: placesFrom (before ++ [d]) rest

/-- The places of a group, from the first to the last. -/
def placesOf (group : List Declaration) : List Place := placesFrom [] group

/-- The places of a list: group by group, from the first to the last. -/
def places (policy : Policy) (members : List Member) : List Place :=
  (groups policy members).flatMap placesOf

/-- What a check of a group finds at a place: what it finds up to there and not before. -/
def Place.found (policy : Policy) (p : Place) : List Diagnostic :=
  (checkGroup policy (p.before ++ [p.here])).drop (checkGroup policy p.before).length

theorem placesFrom_concat (before group : List Declaration) (d : Declaration) :
    placesFrom before (group ++ [d]) = placesFrom before group ++ [⟨before ++ group, d⟩] := by
  induction group generalizing before with
  | nil => simp [placesFrom]
  | cons e group ih => simp [placesFrom, ih]

theorem placesOf_concat (group : List Declaration) (d : Declaration) :
    placesOf (group ++ [d]) = placesOf group ++ [⟨group, d⟩] := by
  rw [placesOf, placesFrom_concat]
  rfl

theorem exists_rest_of_mem_placesOf {p : Place} (h : p ∈ placesOf group) :
    ∃ rest, group = p.before ++ [p.here] ++ rest := by
  induction group using List.reverseRecOn with
  | nil => cases h
  | append_singleton group d ih =>
    rw [placesOf_concat, List.mem_append, List.mem_singleton] at h
    rcases h with h | rfl
    · obtain ⟨rest, whole⟩ := ih h
      exact ⟨rest ++ [d], by rw [← List.append_assoc, ← whole]⟩
    · exact ⟨[], (List.append_nil _).symm⟩

theorem checkGroup_concat (group : List Declaration) (d : Declaration) :
    checkGroup policy (group ++ [d]) = checkGroup policy group ++
      foundAt policy (baselineAfter policy none (group.map .declaration)) (.declaration d) := by
  rw [checkGroup, List.map_append, checkMembers, checkFrom_append]
  refine congrArg _ ?_
  rw [List.map_cons, List.map_nil, checkFrom_cons]
  cases nextBaseline policy (baselineAfter policy none (group.map .declaration))
    (.declaration d) <;> simp [checkFrom]

/-- At a place a declaration is compared with the baseline that those before it leave. -/
theorem Place.found_eq (policy : Policy) (p : Place) :
    p.found policy = foundAt policy (baselineAfter policy none (p.before.map .declaration))
      (.declaration p.here) := by
  rw [Place.found, checkGroup_concat, List.drop_left]

/-- A check of a group goes from place to place. -/
theorem checkGroup_eq_flatMap (policy : Policy) (group : List Declaration) :
    checkGroup policy group = (placesOf group).flatMap (·.found policy) := by
  induction group using List.reverseRecOn with
  | nil => rfl
  | append_singleton group d ih =>
    rw [checkGroup_concat, placesOf_concat, List.flatMap_append, ih, List.flatMap_singleton,
      Place.found_eq]

end Order

end PropOrder
