import PropOrder.Proofs.Assembly.Linked
import PropOrder.Proofs.Token

/-!
# Forward and backward access to tokens

Asked for all tokens of a tree, a stream lists them from left to right. The token before one of them
is the one listed before it, and so is the token before a node that begins with it
(`tokenBefore?_eq_previous?`). The spans of the tree have to be nested and ordered: then the tokens
listed before the first token of a node are those that stop where the node starts, or earlier.
-/

namespace PropOrder

/-- The item of a list in front of a given number, if there is one. -/
def previous? {α : Type} (l : List α) : ℕ → Option α
  | 0 => none
  | k + 1 => l[k]?

theorem previous?_append {α : Type} (front back : List α) :
    previous? (front ++ back) front.length = front.getLast? := by
  cases hl : front.length with
  | zero => rw [List.length_eq_zero_iff.1 hl]; rfl
  | succ k =>
    have bound : k < front.length := by omega
    rw [previous?, List.getElem?_append_left bound, List.getLast?_eq_getElem?, hl]
    rfl

theorem previous?_map {α β : Type} (f : α → β) (l : List α) (k : ℕ) :
    previous? (l.map f) k = (previous? l k).map f := by
  cases k with
  | zero => rfl
  | succ k => exact List.getElem?_map

namespace TokenStream
variable {source : SourceText} {tree d x : Concrete} {front back : List Concrete} {limit : ℕ}

/-- All tokens of the tree of a stream, in order. -/
theorem firstTokens_all (nested : tree.Nested) {count : ℤ} (all : count < 0) :
    firstTokens ⟨source, tree⟩ tree.span count = tree.tokens.map (Token.ofConcrete source) := by
  have inside : tree.tokens.filter (·.liesIn tree.span) = tree.tokens :=
    List.filter_eq_self.2 fun x hx => Concrete.liesIn_iff.2 (nested.within_of_mem_tokens hx)
  rw [firstTokens, if_pos all, within, Concrete.tokensWithin_eq_filter nested, inside]

/-- A cut of the tokens of a tree at an offset: those in front stop there or earlier, those behind
stop later. -/
structure CutAt (tree : Concrete) (limit : ℕ) (front back : List Concrete) : Prop where
  split : tree.tokens = front ++ back
  before : ∀ y ∈ front, y.span.stop ≤ limit
  behind : ∀ y ∈ back, limit < y.span.stop

/-- Behind a token that stops after an offset no token stops there or earlier. -/
theorem cutAt_of_split (nested : tree.Nested) (ordered : tree.Ordered)
    (split : tree.tokens = front ++ x :: back) (before : ∀ y ∈ front, y.span.stop ≤ limit)
    (behind : limit < x.span.stop) : CutAt tree limit front (x :: back) := by
  have order := Concrete.pairwise_tokens nested ordered
  have nonempty : ∀ y ∈ tree.tokens, y.span.start < y.span.stop :=
    fun y hy => Concrete.start_lt_stop_of_mem_tokens hy
  rw [split] at order nonempty
  refine ⟨split, before, fun y hy => ?_⟩
  rcases List.mem_cons.1 hy with rfl | hy
  · exact behind
  · have := (List.pairwise_cons.1 (List.pairwise_append.1 order).2.1).1 y hy
    have := nonempty y (List.mem_append_right _ (List.mem_cons_of_mem _ hy))
    omega

/-- The token before an offset is the last one in front of the cut. -/
theorem CutAt.tokenBefore?_eq (cut : CutAt tree limit front back) (nested : tree.Nested) :
    tokenBefore? ⟨source, tree⟩ limit = front.getLast?.map (Token.ofConcrete source) := by
  have late : ∀ y ∈ back, ¬ y.span.stop ≤ limit := fun y hy => not_le.2 (cut.behind y hy)
  have found : tree.tokens.filter (·.span.stop ≤ limit) = front := by
    rw [cut.split, List.filter_append, List.filter_eq_self.2 (by simpa using cut.before),
      List.filter_eq_nil_iff.2 (by simpa using late), List.append_nil]
  rw [tokenBefore?, Concrete.tokensBefore_eq_filter nested, found, List.head?_reverse]

/-- The token before an offset that splits the tokens is the last one in front of the split. -/
theorem tokenBefore?_of_split (nested : tree.Nested) (ordered : tree.Ordered)
    (split : tree.tokens = front ++ x :: back) (before : ∀ y ∈ front, y.span.stop ≤ limit)
    (behind : limit < x.span.stop) : tokenBefore? ⟨source, tree⟩ limit =
      previous? (tree.tokens.map (Token.ofConcrete source)) front.length := by
  rw [(cutAt_of_split nested ordered split before behind).tokenBefore?_eq nested, previous?_map,
    split, previous?_append]

/-- A node that begins with a token is preceded by the same tokens. -/
theorem stop_le_start_of_first (nested : tree.Nested) (ordered : tree.Ordered)
    (split : tree.tokens = front ++ x :: back) (hd : d ∈ tree.nodes)
    (first : x.span.Within d.span) (outside : ∀ y ∈ front, ¬ y.span.Within d.span) :
    ∀ y ∈ front, y.span.stop ≤ d.span.start := by
  intro y hy
  have order := Concrete.pairwise_tokens nested ordered
  rw [split] at order
  have apart := (List.pairwise_append.1 order).2.2 y hy x (List.mem_cons_self ..)
  have memX : x ∈ tree.tokens := split ▸ List.mem_append_right _ (List.mem_cons_self ..)
  have memY : y ∈ tree.tokens := split ▸ List.mem_append_left _ hy
  have nonemptyX := Concrete.start_lt_stop_of_mem_tokens memX
  have nonemptyY := Concrete.start_lt_stop_of_mem_tokens memY
  have startX := first.1
  have stopX := first.2
  rcases Concrete.inside_or_apart nested ordered memY hd with inside | around | before | behind
  · exact absurd inside (outside y hy)
  -- a token around the node would contain the token that the node begins with
  · have := around.2
    omega
  · exact before
  · omega

/-- The first token of a window splits the tokens, and none in front of it lies in the window. -/
theorem exists_split_of_firstTokens (nested : tree.Nested) {window : Span} {t : Token}
    (first : firstTokens ⟨source, tree⟩ window 1 = [t]) : ∃ front x back,
      tree.tokens = front ++ x :: back ∧ t = .ofConcrete source x ∧ x.span.Within window ∧
        ∀ y ∈ front, ¬ y.span.Within window := by
  rw [firstTokens, if_neg (by decide), within, Concrete.tokensWithin_eq_filter nested] at first
  cases found : tree.tokens.filter (·.liesIn window) with
  | nil =>
    rw [found] at first
    cases first
  | cons x rest =>
    rw [found] at first
    obtain ⟨front, back, split, outside, inside, -⟩ := List.filter_eq_cons_iff.1 found
    refine ⟨front, x, back, split, (List.cons.inj first).1.symm, Concrete.liesIn_iff.1 inside, ?_⟩
    exact fun y hy within => outside y hy (Concrete.liesIn_iff.2 within)

/-- The token before a token is the one listed before it. -/
theorem tokenBefore?_of_token (nested : tree.Nested) (ordered : tree.Ordered) {k : ℕ}
    (hx : tree.tokens[k]? = some x) : tokenBefore? ⟨source, tree⟩ x.span.start =
      previous? (tree.tokens.map (Token.ofConcrete source)) k := by
  obtain ⟨bound, rfl⟩ := List.getElem?_eq_some_iff.1 hx
  obtain ⟨front, back, split, rfl⟩ : ∃ front back,
      tree.tokens = front ++ tree.tokens[k] :: back ∧ front.length = k := by
    refine ⟨tree.tokens.take k, tree.tokens.drop (k + 1), ?_, List.length_take_of_le bound.le⟩
    rw [← List.drop_eq_getElem_cons bound, List.take_append_drop]
  have order := Concrete.pairwise_tokens nested ordered
  rw [split] at order
  have before := fun y hy => (List.pairwise_append.1 order).2.2 y hy _ (List.mem_cons_self ..)
  have behind := Concrete.start_lt_stop_of_mem_tokens (List.getElem_mem bound)
  exact tokenBefore?_of_split nested ordered split before behind

/-- The token before a node of the tree that begins with a token is the one listed before that
token. -/
theorem tokenBefore?_of_first (nested : tree.Nested) (ordered : tree.Ordered)
    (hd : d ∈ tree.nodes) {t : Token} (first : firstTokens ⟨source, tree⟩ d.span 1 = [t]) :
    ∃ k, (tree.tokens.map (Token.ofConcrete source))[k]? = some t ∧
      tokenBefore? ⟨source, tree⟩ d.span.start =
        previous? (tree.tokens.map (Token.ofConcrete source)) k := by
  obtain ⟨front, x, back, split, rfl, inside, outside⟩ := exists_split_of_firstTokens nested first
  have before := stop_le_start_of_first nested ordered split hd inside outside
  have memX : x ∈ tree.tokens := split ▸ List.mem_append_right _ (List.mem_cons_self ..)
  have behind := Nat.lt_of_le_of_lt inside.1 (Concrete.start_lt_stop_of_mem_tokens memX)
  refine ⟨front.length, ?_, tokenBefore?_of_split nested ordered split before behind⟩
  simp [split]

/-- **Forward and backward access to the tokens of a source agree. In a tree whose spans are nested
and ordered all tokens, asked for at once, stand one behind the other; the token before each is the
one listed before it, and so is the token before a node of the program that begins with it.** -/
theorem tokenBefore?_eq_previous? (nested : tree.Nested) (ordered : tree.Ordered) {count : ℤ}
    (all : count < 0) :
    let stream : TokenStream := ⟨source, tree⟩
    let tokens := stream.firstTokens tree.span count
    (∀ t ∈ tokens, t.span.start < t.span.stop) ∧
      tokens.Pairwise (fun a b => a.span.stop ≤ b.span.start) ∧
      (∀ k t, tokens[k]? = some t → stream.tokenBefore? t.span.start = previous? tokens k) ∧
      ∀ n, Conversion.convert source tree = .ok n → ∀ s ∈ (Site.root n).walk, ∀ t,
        stream.firstTokens s.span 1 = [t] →
          ∃ k, tokens[k]? = some t ∧ stream.tokenBefore? s.span.start = previous? tokens k := by
  intro stream tokens
  have listed : tokens = tree.tokens.map (Token.ofConcrete source) := firstTokens_all nested all
  rw [listed]
  refine ⟨?_, List.pairwise_map.2 (Concrete.pairwise_tokens nested ordered), ?_, ?_⟩
  · intro t ht
    obtain ⟨x, hx, rfl⟩ := List.mem_map.1 ht
    exact Concrete.start_lt_stop_of_mem_tokens hx
  · intro k t hk
    rw [List.getElem?_map] at hk
    obtain ⟨x, hx, rfl⟩ := Option.map_eq_some_iff.1 hk
    exact tokenBefore?_of_token nested ordered hx
  · intro n converts s hs t first
    obtain ⟨d, hd, span⟩ := Assembly.coveredBy_of_mem_walk converts hs
    rw [← span] at first ⊢
    exact tokenBefore?_of_first nested ordered hd first

/-- The concrete tree of the source `f(a)`. -/
def callTree : Concrete :=
  .mk ⟨true, "program", "", ⟨0, 4⟩⟩ [
    .mk ⟨true, "expression_statement", "", ⟨0, 4⟩⟩ [
      .mk ⟨true, "call_expression", "", ⟨0, 4⟩⟩ [
        .mk ⟨true, "identifier", "function", ⟨0, 1⟩⟩ [],
        .mk ⟨true, "arguments", "arguments", ⟨1, 4⟩⟩ [
          .mk ⟨false, "(", "", ⟨1, 2⟩⟩ [],
          .mk ⟨true, "identifier", "", ⟨2, 3⟩⟩ [],
          .mk ⟨false, ")", "", ⟨3, 4⟩⟩ []]]]]

/-- In `f(a)` the token before `a` is the parenthesis in front of it. -/
theorem callTree_tokenBefore? : let stream : TokenStream := ⟨.ofString "f(a)", callTree⟩
    let tokens := stream.firstTokens callTree.span (-1)
    callTree.Nested ∧ callTree.Ordered ∧
      tokens.map (·.span) = [⟨0, 1⟩, ⟨1, 2⟩, ⟨2, 3⟩, ⟨3, 4⟩] ∧
      ∀ t, tokens[2]? = some t → stream.tokenBefore? t.span.start = tokens[1]? := by
  have nested : callTree.Nested := by decide +kernel
  have ordered : callTree.Ordered := by decide +kernel
  have all : (-1 : ℤ) < 0 := by decide
  have agree := @tokenBefore?_eq_previous? (.ofString "f(a)") callTree nested ordered (-1) all
  exact ⟨nested, ordered, by decide +kernel, fun t ht => agree.2.2.1 2 t ht⟩

end TokenStream

end PropOrder
