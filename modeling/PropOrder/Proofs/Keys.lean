import PropOrder.Keys
import PropOrder.Proofs.WellFormed

/-!
# Names in a well-formed program

On a well-formed program no reading of the name of a property, a member or a callee fails.
-/

namespace PropOrder

/-! ### Values -/

namespace Slot
variable {α : Type} {v : Slot α}

theorem eq_null_of_isNull (h : v.isNull = true) : v = .null := by
  obtain (_ | _ | _) | _ := v
  · rfl
  all_goals cases h

theorem eq_text_of_text? {t : Text} (h : v.text? = some t) : v = .text t := by
  obtain (_ | (_ | _ | _ | _ | _) | _) | _ := v
  all_goals cases h
  rfl

theorem eq_text_of_isText {name : String} (h : v.isText name = true) :
    v = .text (.ofString name) := by
  obtain (_ | (t | _ | _ | _) | _) | _ := v
  case one.scalar.text => exact congrArg Slot.text (eq_of_beq h)
  all_goals cases h

end Slot

theorem Value.eq_node_of_site? {v : Value} {s : Site} (h : v.site? = .ok (some s)) :
    v = .node s := by
  obtain (_ | _ | _) | _ := v
  all_goals cases h
  rfl

namespace Site
variable {source : SourceText} {s : Site} {name : String}

theorem succeeds_display_name (wf : s.node.WellFormed source) :
    Succeeds (s.get "name").display := by
  rcases get_name wf with hg | ⟨t, hg⟩
  · rw [hg]
    exact succeeds_ok _
  · rw [hg]
    exact succeeds_ok _

theorem succeeds_propertyName (wf : s.node.WellFormed source) : Succeeds s.propertyName := by
  have named : Succeeds s.nameNode.site? := by
    simp only [nameNode]
    split
    · exact ⟨_, site?_nodeField wf rfl, trivial⟩
    split
    · exact ⟨_, site?_nodeField wf rfl, trivial⟩
    · exact succeeds_ok none
  obtain ⟨n?, hn, -⟩ := named
  rw [propertyName, hn, ok_bind]
  cases n? with
  | none => exact succeeds_ok _
  | some n => exact succeeds_ok _

theorem succeeds_calleeName (wf : s.node.WellFormed source) : Succeeds s.calleeName := by
  unfold calleeName
  split
  · exact succeeds_ok _
  split
  · refine returns_bind_child wf rfl (succeeds_ok _) fun object ho => ?_
    by_cases identifier : object.isIdentifier = true
    · simp only [identifier, Bool.not_true, Bool.false_eq_true, if_false]
      refine returns_bind_child wf rfl (succeeds_ok _) fun property hp => ?_
      obtain ⟨front, hfront, -⟩ := succeeds_display_name (wellFormed_of_mem_children wf ho)
      obtain ⟨back, hback, -⟩ := succeeds_display_name (wellFormed_of_mem_children wf hp)
      by_cases named : (property.get "name").truthy = true
      · simp only [named, if_true, hfront, hback, ok_bind]
        exact succeeds_ok _
      · simp only [named]
        exact succeeds_ok _
    · simp only [identifier, Bool.not_false, if_true]
      exact succeeds_ok _
  · exact succeeds_ok _

theorem succeeds_calleeName?_get (wf : s.node.WellFormed source) (hn : nodeField name = true) :
    Succeeds (calleeName? (s.get name)) :=
  returns_bind_child wf hn (succeeds_ok _) fun _ hc =>
    succeeds_calleeName (wellFormed_of_mem_children wf hc)

/-! ### First items -/

/-- The first item of a list, which may have none. -/
theorem first_listField (wf : s.node.WellFormed source) (hn : listField name = true) :
    (s.get name).first = .ok ((s.get name).nodeList.head?.elim .null .node) := by
  rw [Value.first, items_listField wf hn, ok_bind, pure_eq_ok, List.head?_map]
  cases (s.get name).nodeList.head? with
  | none => rfl
  | some c => rfl

/-- A list counts as true if it has a first item. -/
theorem truthy_listField (wf : s.node.WellFormed source) (hn : listField name = true) :
    (s.get name).truthy = (s.get name).nodeList.head?.isSome := by
  rcases get_listField wf hn with hg | hg
  · rw [hg]
    rfl
  · conv_lhs => rw [hg]
    cases (s.get name).nodeList <;> rfl

end Site

end PropOrder
