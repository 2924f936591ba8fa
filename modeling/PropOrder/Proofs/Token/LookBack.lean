import Mathlib.Computability.StateTransition
import PropOrder.Proofs.Token.Line

/-!
# Looking back over blank markup

Looking back from a node is a loop: the token before the node is taken, and as long as the token
taken is markup text with a blank last line, the token before that one. The loop has no bound of its
own, and a concrete tree may have any spans: nodes that reach out of their parents, children in any
order, one over the other. It ends all the same, because a token that stops at or before an offset
and is not empty starts before it (`lookBack_ends`). The way back is described first, as a list of
tokens passed over with the token at its end (`LooksBack`); that it exists and that the loop goes it
are separate facts (`exists_looksBack`, `LooksBack.reaches`).
-/

namespace PropOrder

namespace TokenStream
variable {stream : TokenStream} {offset : ℕ} {t : Token} {passed : List Token}
  {found : Option Token}

/-- All tokens of a stream, from left to right. -/
def all (stream : TokenStream) : List Token :=
  stream.tree.tokens.map (Token.ofConcrete stream.source)

/-- A token found before an offset is one of the stream, and it stops there or earlier. -/
theorem of_tokenBefore? (h : stream.tokenBefore? offset = some t) :
    t ∈ stream.all ∧ t.span.stop ≤ offset := by
  obtain ⟨x, hx, rfl⟩ := Option.map_eq_some_iff.1 h
  have mem := List.mem_of_head? hx
  exact ⟨List.mem_map_of_mem (Concrete.mem_tokens_of_mem_tokensBefore mem),
    (Concrete.of_mem_tokensBefore _ mem).2⟩

/-! ### The loop -/

/-- A turn of the loop, on the tokens passed over so far and the token taken last: blank markup is
passed over. -/
def turn (stream : TokenStream) : List Token × Option Token → Option (List Token × Option Token)
  | (_, none) => none
  | (passed, some t) =>
    if t.isBlankMarkup then some (passed ++ [t], stream.tokenBefore? t.span.start) else none

/-- The tokens that the loop passes over from a site on, and the token that it ends with, if it
ends. -/
def lookBack (stream : TokenStream) : Site →. List Token × Option Token := fun s =>
  StateTransition.eval stream.turn ([], stream.tokenBefore? s.span.start)

/-! ### The way back -/

/-- The way back from an offset: the blank markup passed over, and what it ends at. -/
inductive LooksBack (stream : TokenStream) : ℕ → List Token → Option Token → Prop where
  /-- There is no token. -/
  | empty {offset : ℕ} (nothing : stream.tokenBefore? offset = none) :
    LooksBack stream offset [] none
  /-- The token is no blank markup. -/
  | solid {offset : ℕ} {t : Token} (token : stream.tokenBefore? offset = some t)
      (solid : t.isBlankMarkup = false) : LooksBack stream offset [] (some t)
  /-- The token is blank markup, and the way goes on from its start. -/
  | blank {offset : ℕ} {t : Token} {passed : List Token} {found : Option Token}
      (token : stream.tokenBefore? offset = some t) (blank : t.isBlankMarkup = true)
      (on : LooksBack stream t.span.start passed found) : LooksBack stream offset (t :: passed) found

/-- There is a way back from every offset. -/
theorem exists_looksBack (stream : TokenStream) (offset : ℕ) :
    ∃ passed, LooksBack stream offset passed (stream.lineToken? offset) := by
  induction offset using Nat.strong_induction_on with
  | _ offset ih =>
    rw [lineToken?]
    split
    · next nothing => exact ⟨[], .empty nothing⟩
    · next t token =>
      cases blank : t.isBlankMarkup with
      | false => exact ⟨[], .solid token blank⟩
      -- the way goes on from a smaller offset
      | true =>
        obtain ⟨passed, on⟩ := ih t.span.start (start_lt_of_tokenBefore? token)
        exact ⟨t :: passed, .blank token blank on⟩

namespace LooksBack

/-- The loop goes the way back. -/
theorem reaches (way : LooksBack stream offset passed found) (before : List Token) :
    StateTransition.Reaches stream.turn (before, stream.tokenBefore? offset)
      (before ++ passed, found) := by
  induction way generalizing before with
  | empty nothing =>
    rw [nothing, List.append_nil]
    exact .refl
  | solid token _ =>
    rw [token, List.append_nil]
    exact .refl
  | @blank offset t passed found token blank on ih =>
    have turn : stream.turn (before, some t) =
        some (before ++ [t], stream.tokenBefore? t.span.start) := if_pos blank
    have rest := ih (before ++ [t])
    rw [List.append_assoc, List.singleton_append] at rest
    rw [token]
    exact .head turn rest

/-- The loop stops at the end of the way. -/
theorem turn_eq_none (way : LooksBack stream offset passed found) (before : List Token) :
    stream.turn (before, found) = none := by
  induction way with
  | empty _ => rfl
  | solid _ solid => simp [turn, solid]
  | blank _ _ _ ih => exact ih

theorem lookBack_eq {s : Site} (way : LooksBack stream s.span.start passed found) :
    stream.lookBack s = .some (passed, found) := by
  rw [lookBack, Part.eq_some_iff]
  exact StateTransition.mem_eval.2 ⟨way.reaches [], way.turn_eq_none _⟩

theorem isBlankMarkup_passed (way : LooksBack stream offset passed found) :
    ∀ t ∈ passed, t.isBlankMarkup = true := by
  induction way with
  | empty _ => simp
  | solid _ _ => simp
  | blank _ blank _ ih => exact List.forall_mem_cons.2 ⟨blank, ih⟩

theorem isBlankMarkup_found (way : LooksBack stream offset passed found) :
    ∀ t ∈ found, t.isBlankMarkup = false := by
  induction way with
  | empty _ => simp
  | solid _ solid => simp [solid]
  | blank _ _ _ ih => exact ih

/-- All tokens on the way are tokens of the stream that stop at the offset or earlier. -/
theorem all_and_stop_le (way : LooksBack stream offset passed found) :
    ∀ t ∈ passed ++ found.toList, t ∈ stream.all ∧ t.span.stop ≤ offset := by
  induction way with
  | empty _ => simp
  | solid token _ => simpa using of_tokenBefore? token
  | blank token _ _ ih =>
    have := start_lt_of_tokenBefore? token
    refine List.forall_mem_cons.2 ⟨of_tokenBefore? token, fun u hu => ?_⟩
    obtain ⟨mem, stop⟩ := ih u hu
    exact ⟨mem, by omega⟩

/-- Each token on the way starts before the one taken in front of it. -/
theorem pairwise_start (way : LooksBack stream offset passed found) :
    (passed ++ found.toList).Pairwise fun t u => u.span.start < t.span.start := by
  induction way with
  | empty _ => simp
  | solid _ _ => simp
  | blank _ _ on ih =>
    refine List.pairwise_cons.2 ⟨fun u hu => ?_, ih⟩
    obtain ⟨mem, stop⟩ := on.all_and_stop_le u hu
    obtain ⟨x, hx, rfl⟩ := List.mem_map.1 mem
    exact Nat.lt_of_lt_of_le (Concrete.start_lt_stop_of_mem_tokens hx) stop

end LooksBack

/-- **Looking back over blank markup ends, whatever the spans of the concrete tree are. A token that
is found before an offset starts before it, so that the tokens taken start one before the other. The
loop ends at no token, or at one that stops where the node starts, or earlier, and is no markup text
with a blank last line; all that it has passed over is such text.** -/
theorem lookBack_ends (stream : TokenStream) (s : Site) :
    (∀ start t, stream.tokenBefore? start = some t → t.span.start < start) ∧
      ∃ passed, stream.lookBack s = .some (passed, stream.lineToken? s.span.start) ∧
        (passed ++ (stream.lineToken? s.span.start).toList).Pairwise
          (fun t u => u.span.start < t.span.start) ∧
        (∀ t ∈ passed, t ∈ stream.all ∧ t.EndsBlank) ∧
        ∀ t ∈ stream.lineToken? s.span.start,
          t ∈ stream.all ∧ t.span.stop ≤ s.span.start ∧ ¬t.EndsBlank := by
  obtain ⟨passed, way⟩ := exists_looksBack stream s.span.start
  have onTheWay := way.all_and_stop_le
  refine ⟨fun _ _ => start_lt_of_tokenBefore?, passed, way.lookBack_eq, way.pairwise_start, ?_, ?_⟩
  · intro t ht
    obtain ⟨mem, -⟩ := onTheWay t (List.mem_append_left _ ht)
    exact ⟨mem, Token.isBlankMarkup_iff.1 (way.isBlankMarkup_passed t ht)⟩
  · intro t ht
    obtain ⟨mem, stop⟩ := onTheWay t (List.mem_append_right _ (Option.mem_toList.2 ht))
    refine ⟨mem, stop, fun blank => ?_⟩
    have solid := way.isBlankMarkup_found t ht
    rw [Token.isBlankMarkup_iff.2 blank] at solid
    cases solid

/-- The source of `x` in front of an element, with blank text between the two. -/
def tangledSource : SourceText := .ofString "x\n \n <b/>"

/-- A concrete tree with a root that covers less than its children, a sign in front of all other
tokens that lies over two of them, and blank text between the name and the element. -/
def tangledTree : Concrete :=
  .mk ⟨true, "jsx_element", "", ⟨0, 2⟩⟩ [
    .mk ⟨false, "+", "", ⟨2, 4⟩⟩ [],
    .mk ⟨true, "identifier", "", ⟨0, 1⟩⟩ [],
    .mk ⟨true, "jsx_text", "", ⟨1, 3⟩⟩ [],
    .mk ⟨true, "jsx_text", "", ⟨3, 5⟩⟩ [],
    .mk ⟨true, "jsx_self_closing_element", "", ⟨5, 9⟩⟩ []]

/-- From the element the loop passes over blank text and ends at the name. -/
theorem tangledTree_lookBack : let stream : TokenStream := ⟨tangledSource, tangledTree⟩
    let element := Site.root (.mk ⟨"JSXElement", ⟨5, 9⟩, none⟩ [])
    ¬tangledTree.Nested ∧ ¬tangledTree.Ordered ∧
      (∃ t, stream.tokenBefore? 5 = some t ∧ t.EndsBlank ∧ t.span.start < 5) ∧
      ∃ passed name, stream.lookBack element = .some (passed, some name) ∧ name.span = ⟨0, 1⟩ ∧
        (∀ t ∈ passed, t.EndsBlank) ∧ ¬name.EndsBlank := by
  intro stream element
  obtain ⟨progress, passed, ends, -, blank, last⟩ := lookBack_ends stream element
  have first : (stream.tokenBefore? 5).map Token.isBlankMarkup = some true := by decide +kernel
  obtain ⟨t, token, isBlank⟩ := Option.map_eq_some_iff.1 first
  have line : (stream.lineToken? 5).map Token.span = some ⟨0, 1⟩ := by decide +kernel
  obtain ⟨name, found, span⟩ := Option.map_eq_some_iff.1 line
  have at5 : stream.lineToken? element.span.start = some name := found
  rw [at5] at ends last
  refine ⟨by decide +kernel, by decide +kernel, ⟨t, token, ?_, progress 5 t token⟩, passed, name,
    ends, span, fun u hu => (blank u hu).2, (last name rfl).2.2⟩
  exact Token.isBlankMarkup_iff.1 isBlank

end TokenStream

end PropOrder
