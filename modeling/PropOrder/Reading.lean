import PropOrder.Value

/-!
# Reading under a node

Recursion over a program follows fields. The readers of this module hand each node that a field
holds to a continuation together with the fact that the field holds it, so that a function may call
itself on that node: what a field of a node holds is smaller than the node. For a continuation
that ignores the fact each reader is a plain reading, by `withNode_eq` and `withItems_eq`.
-/

namespace PropOrder

namespace Value
variable {β : Type}

/-- Hand the node that a value holds to a continuation; without one the answer is given. -/
def withNode (v : Value) (missing : β) (k : (s : Site) → s ∈ v.nodeList → Except Fault β) :
    Except Fault β :=
  match v with
  | .one .null => .ok missing
  | .one (.node s) => k s (by simp [Slot.nodeList, Slot.entries, Entry.node?])
  | _ => .error .notANode

theorem withNode_eq (v : Value) (missing : β) (k : Site → Except Fault β) :
    v.withNode missing (fun s _ => k s) = v.site? >>= fun s? => s?.elim (.ok missing) k := by
  rcases v with (_ | _ | s) | es <;> rfl

/-- Hand the node that an entry is to a continuation. -/
def entryWith (e : Entry Site) (missing : Except Fault β)
    (k : (s : Site) → e = .node s → Except Fault β) : Except Fault β :=
  match e with
  | .null => missing
  | .scalar _ => .error .notANode
  | .node s => k s rfl

/-- No node is among the items of a scalar. -/
theorem not_mem_items_of_scalar {v : Scalar} {es : List (Entry Site)} {s : Site}
    (h : items (.one (.scalar v)) = .ok es) : Entry.node s ∉ es := by
  intro hs
  cases v with
  | text t => cases h; simp at hs
  | int i => simp only [items] at h; split at h <;> cases h; cases hs
  | real x => simp only [items] at h; split at h <;> cases h; cases hs
  | bool b => simp only [items] at h; split at h <;> cases h; cases hs

/-- The nodes among the items of a list are nodes that the value holds. -/
theorem mem_nodeList_of_mem_items {v : Value} {es : List (Entry Site)} {s : Site}
    (h : v.items = .ok es) (hs : Entry.node s ∈ es) : s ∈ v.nodeList := by
  rcases v with (_ | v | _) | ds
  · cases h; cases hs
  · exact absurd hs (not_mem_items_of_scalar h)
  · cases h
  · cases h; exact List.mem_filterMap.2 ⟨_, hs, rfl⟩

/-- Hand the nodes of a list to a continuation one after the other, and join the answers. An item
that is nothing has the given answer, and what counts as false is an empty list. -/
def withItems (v : Value) (missing : Except Fault (List β))
    (k : (s : Site) → s ∈ v.nodeList → Except Fault (List β)) : Except Fault (List β) :=
  match hv : v.items with
  | .error fault => .error fault
  | .ok es => do
    let answers ← es.attach.mapM fun e =>
      entryWith e.1 missing fun s hs => k s (mem_nodeList_of_mem_items hv (hs ▸ e.2))
    return answers.flatten

theorem withItems_eq (v : Value) (missing : Except Fault (List β))
    (k : Site → Except Fault (List β)) :
    v.withItems missing (fun s _ => k s) = do
      let es ← v.items
      let answers ← es.mapM fun e => entryWith e missing fun s _ => k s
      return answers.flatten := by
  unfold withItems
  split
  · next h => rw [h]; rfl
  · next es h =>
    have plain : (es.attach.mapM fun e => entryWith e.1 missing fun s _ => k s) =
        es.mapM fun e => entryWith e missing fun s _ => k s := by
      have drop := List.mapM_subtype (l := es.attach)
        (f := fun e => entryWith e.1 missing fun s _ => k s)
        (g := fun e => entryWith e missing fun s _ => k s) fun _ _ => rfl
      rw [drop, List.unattach_attach]
    simp only [h, plain]
    rfl

/-- The first item of a list; nothing if there is none. -/
def first (v : Value) : Except Fault Value := return ((← v.items).head?.map Slot.one).getD .null

/-- A node that the first item of a list holds is among the nodes that the value holds. -/
theorem mem_nodeList_of_first {v w : Value} {s : Site} (h : v.first = .ok w)
    (hs : s ∈ w.nodeList) : s ∈ v.nodeList := by
  unfold first at h
  cases hv : v.items with
  | error _ => rw [hv] at h; cases h
  | ok es =>
    rw [hv] at h
    obtain rfl := Except.ok.inj h
    cases es with
    | nil => simp [Slot.nodeList, Slot.entries, Entry.node?] at hs
    | cons e es =>
      obtain ⟨e', he, hn⟩ := List.mem_filterMap.1 hs
      obtain rfl := List.mem_singleton.1 he
      cases e' with
      | node c =>
        obtain rfl := Option.some.inj hn
        exact mem_nodeList_of_mem_items hv (List.mem_cons_self ..)
      | null => cases hn
      | scalar _ => cases hn

/-- The last of some entries, which must be a node. -/
def lastEntry (es : List (Entry Site)) : Except Fault Site :=
  match es.getLast? with
  | some e => e.site
  | none => .error .noSuchItem

/-- The last item of a list, which must be a node. -/
def lastNode (v : Value) : Except Fault Site := v.items >>= lastEntry

/-- The last item of a list is among the nodes that the value holds. -/
theorem mem_nodeList_of_lastNode {v : Value} {s : Site} (h : v.lastNode = .ok s) :
    s ∈ v.nodeList := by
  unfold lastNode at h
  cases hv : v.items with
  | error _ => rw [hv] at h; cases h
  | ok es =>
    rw [hv] at h
    change lastEntry es = .ok s at h
    unfold lastEntry at h
    split at h
    · next e he =>
      cases e with
      | node c =>
        obtain rfl := Except.ok.inj h
        exact mem_nodeList_of_mem_items hv (List.mem_of_getLast? he)
      | null => cases h
      | scalar _ => cases h
    · cases h

end Value

end PropOrder
