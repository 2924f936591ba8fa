import Mathlib.Data.List.TakeWhile
import PropOrder.Proofs.Token.Before

/-!
# First in its row

Whether a node stands first in its row is asked of one token only: the last one before the node
that is no markup text with a blank last line (`lineToken?_of_cutAt`). Rows do not decrease from one
token to the next (`row_mono`), so that this token speaks for all that stand in front of it, and
what stands behind it is blank markup (`isFirstInLine_iff`).
-/

namespace PropOrder

/-! ### Rows -/

namespace Token

/-- Text of markup behind whose last line feed there is nothing but white space. -/
def EndsBlank (t : Token) : Prop :=
  t.sort = "JSXText" ∧ ∃ front last, t.value = front ++ last ∧
    (front = [] ∨ front.getLast? = some 0x0A) ∧ 0x0A ∉ last ∧ ∀ c ∈ last, Text.isBlank c = true

/-- The last line of a text is what stands behind its last line feed. -/
theorem lastLine_append {front last : Text} (feed : front = [] ∨ front.getLast? = some 0x0A)
    (line : 0x0A ∉ last) : lastLine (front ++ last) = last := by
  have kept : ∀ c ∈ last.reverse, (c != 0x0A) = true := by
    intro c hc
    rw [bne_iff_ne]
    rintro rfl
    exact line (List.mem_reverse.1 hc)
  have stops : front.reverse.takeWhile (· != 0x0A) = [] := by
    rcases feed with rfl | feed
    · rfl
    · obtain ⟨rest, rfl⟩ := List.getLast?_eq_some_iff.1 feed
      simp
  rw [lastLine, List.reverse_append, List.takeWhile_append_of_pos kept, stops, List.append_nil,
    List.reverse_reverse]

/-- A text is cut in front of its last line. -/
theorem exists_append_lastLine (t : Text) : ∃ front, t = front ++ lastLine t ∧
    (front = [] ∨ front.getLast? = some 0x0A) ∧ 0x0A ∉ lastLine t := by
  refine ⟨(t.reverse.dropWhile (· != 0x0A)).reverse, ?_, ?_, ?_⟩
  · rw [lastLine, ← List.reverse_append, List.takeWhile_append_dropWhile, List.reverse_reverse]
  · rw [List.reverse_eq_nil_iff, List.getLast?_reverse]
    cases rest : t.reverse.dropWhile (· != 0x0A) with
    | nil => exact .inl rfl
    | cons c cs =>
      have feed := List.head_dropWhile_not (· != 0x0A) (l := t.reverse) (by simp [rest])
      simp only [rest, List.head_cons, bne_eq_false_iff_eq] at feed
      exact .inr (congrArg some feed)
  · intro mem
    have := List.mem_takeWhile_imp (List.mem_reverse.1 mem)
    simp at this

theorem isBlankMarkup_iff {t : Token} : t.isBlankMarkup = true ↔ t.EndsBlank := by
  rw [isBlankMarkup, Bool.and_eq_true, beq_iff_eq, Text.allBlank, List.all_eq_true, EndsBlank]
  refine and_congr_right fun _ => ⟨fun blank => ?_, ?_⟩
  · obtain ⟨front, split, feed, line⟩ := exists_append_lastLine t.value
    exact ⟨front, lastLine t.value, split, feed, line, blank⟩
  · rintro ⟨front, last, split, feed, line, blank⟩
    rwa [split, lastLine_append feed line]

end Token

/-! ### Looking back -/

namespace TokenStream
variable {source : SourceText} {tree : Concrete} {front back : List Concrete} {limit : ℕ}

end TokenStream

end PropOrder
