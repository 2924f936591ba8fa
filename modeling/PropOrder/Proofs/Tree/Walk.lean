import Mathlib.Computability.StateTransition
import PropOrder.Proofs.Tree

/-!
# The walk with a stack

The walk from a site can be run as a loop with one stack: the site on top of the stack is met, and
its children are put in its place, the last one first, so that the first one comes to the top. What
is still to be met is at any time the walks of the sites on the stack, from the top down (`pending`).
A turn of the loop meets the first of it and leaves the rest (`pending_of_turn`), so that the loop
comes to an end with the sites met in the order of the recursive walk (`stackWalk_preorder`). In that
order all that is under a site stands in one piece (`isInfix_walk`).
-/

namespace PropOrder

namespace Site
variable {r s : Site}

/-- A turn of the loop, on the sites met so far and a stack whose top is its end. -/
def turn : List Site × List Site → Option (List Site × List Site)
  | (met, stack) =>
    stack.getLast?.map fun s => (met ++ [s], stack.dropLast ++ s.children.reverse)

/-- The sites met by the loop from a site on, if it ends. -/
def stackWalk : Site →. List Site := fun s =>
  (StateTransition.eval turn ([], [s])).map Prod.fst

/-! ### What is still to be met -/

/-- The walks of the sites on a stack, from the top down. -/
def pending (stack : List Site) : List Site := stack.reverse.flatMap walk

@[simp] theorem pending_nil : pending [] = [] := rfl

theorem pending_concat (stack : List Site) (s : Site) :
    pending (stack ++ [s]) = s :: pending (stack ++ s.children.reverse) := by
  simp [pending, walk_eq s]

theorem turn_nil (met : List Site) : turn (met, []) = none := rfl

theorem turn_concat (met stack : List Site) (s : Site) :
    turn (met, stack ++ [s]) = some (met ++ [s], stack ++ s.children.reverse) := by
  simp [turn]

/-- A turn leaves the sites met with those still to be met as they are, and of the latter there
is one less. -/
theorem pending_of_turn {a b : List Site × List Site} (h : turn a = some b) :
    b.1 ++ pending b.2 = a.1 ++ pending a.2 ∧ (pending b.2).length < (pending a.2).length := by
  obtain ⟨met, stack⟩ := a
  rcases stack.eq_nil_or_concat' with rfl | ⟨stack, s, rfl⟩
  · cases h
  · rw [turn_concat] at h
    cases h
    constructor
    · simp [pending_concat]
    · simp [pending_concat]

/-- The loop meets what is still to be met and stops with an empty stack. -/
theorem reaches_pending (a : List Site × List Site) :
    StateTransition.Reaches turn a (a.1 ++ pending a.2, []) := by
  cases h : turn a with
  -- no turn is left only if the stack is empty, and then nothing is still to be met
  | none =>
    obtain ⟨met, stack⟩ := a
    have empty : stack = [] := by simpa [turn] using h
    subst empty
    rw [pending_nil, List.append_nil]
    exact .refl
  | some b =>
    have rest := reaches_pending b
    rw [(pending_of_turn h).1] at rest
    exact .head h rest
termination_by (pending a.2).length
decreasing_by exact (pending_of_turn h).2

/-- The loop from a site on ends, with the sites of the recursive walk. -/
theorem stackWalk_eq (s : Site) : s.stackWalk = .some s.walk := by
  have single : pending [s] = s.walk := by simp [pending]
  have reaches := reaches_pending ([], [s])
  rw [List.nil_append, single] at reaches
  rw [stackWalk, Part.eq_some_iff]
  exact Part.mem_map Prod.fst (StateTransition.mem_eval.2 ⟨reaches, turn_nil _⟩)

/-! ### What is under a site stands in one piece -/

/-- The walk from a child is a piece of the walk. -/
theorem isInfix_of_mem_children (h : s ∈ r.children) : s.walk <:+: r.walk := by
  rw [walk_eq r]
  have among : s.walk <:+: r.children.flatMap walk :=
    List.infix_of_mem_flatten (List.mem_map_of_mem h)
  exact List.infix_cons among

/-- The walk from a site that is met is a piece of the walk. -/
theorem isInfix_walk (h : s ∈ r.walk) : s.walk <:+: r.walk := by
  refine walk_induction (P := fun s => s.walk <:+: r.walk) (List.infix_refl _) ?_ s h
  intro p _ hp c hc
  exact (isInfix_of_mem_children hc).trans hp

/-- **The walk with a stack is the recursive one. From every node of every tree the loop comes to an
end, and it meets the node and then, child by child, what the walk from the child meets. So whatever
the walk from a node meets stands in one piece in any walk that meets the node.** -/
theorem stackWalk_preorder (r : Site) :
    r.stackWalk = .some r.walk ∧ r.walk = r :: r.children.flatMap walk ∧
      ∀ s ∈ r.walk, ∃ front back, r.walk = front ++ s.walk ++ back := by
  refine ⟨stackWalk_eq r, walk_eq r, fun s hs => ?_⟩
  obtain ⟨front, back, split⟩ := isInfix_walk hs
  exact ⟨front, back, split.symm⟩

/-- A node with nothing and a number among the items of a list, and with nodes below nodes. -/
def mixedNode : Node :=
  .mk ⟨"A", ⟨0, 0⟩, none⟩ [
    ("name", .string "a"),
    ("items", .many [
      .null,
      .node (.mk ⟨"B", ⟨0, 0⟩, none⟩ [
        ("none", .null),
        ("inner", .node (.mk ⟨"C", ⟨0, 0⟩, none⟩ []))]),
      .scalar (.int 1),
      .node (.mk ⟨"D", ⟨0, 0⟩, none⟩ [])]),
    ("last", .node (.mk ⟨"E", ⟨0, 0⟩, none⟩ []))]

/-- The items that are no nodes are not met, and the node below `B` is met right behind it. -/
theorem mixedNode_stackWalk : ∃ met, (root mixedNode).stackWalk = .some met ∧
    met.map kind = ["A", "B", "C", "D", "E"] ∧
    ∃ s ∈ met, s.walk.map kind = ["B", "C"] ∧ ∃ front back, met = front ++ s.walk ++ back := by
  obtain ⟨ends, -, piece⟩ := stackWalk_preorder (root mixedNode)
  obtain ⟨s, held, below⟩ : ∃ s, s ∈ ((root mixedNode).get "items").nodeList ∧
      s.walk.map kind = ["B", "C"] := ⟨_, .head _, by decide +kernel⟩
  have met := mem_walk_of_mem_children (mem_walk_self _) (mem_of_get_nodeList held)
  exact ⟨_, ends, by decide +kernel, s, met, below, piece s met⟩

end Site

end PropOrder
