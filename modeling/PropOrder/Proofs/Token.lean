import Mathlib.Data.List.Pairwise
import PropOrder.Proofs.WellFormed.Conversion
import PropOrder.Token

/-!
# The tokens of a tree

`Concrete.tokens` lists the tokens of a tree from left to right and looks at no span but to leave
out what is empty. If the spans of a tree are nested, the traversals of a window and of what stops
before an offset give just what a filter of that list gives (`tokensWithin_eq_filter`,
`tokensBefore_eq_filter`): no part of the tree that they leave out holds a token they are after. So
access to tokens is access to the list (`TokenStream.tokens_eq_filter`). If the spans are ordered
too, the tokens stand one behind the other (`pairwise_tokens`), and no token reaches into a node from
outside without containing it (`inside_or_apart`).
-/

namespace PropOrder

namespace Concrete
variable {t tree c d x y : Concrete} {window : Span} {limit : ℕ}

/-- What holds of a tree whenever it holds of its children holds of all trees. -/
@[elab_as_elim]
theorem inductionOn {P : Concrete → Prop} (tree : Concrete)
    (mk : ∀ head children, (∀ c ∈ children, P c) → P (.mk head children)) : P tree := by
  obtain ⟨head, children⟩ := tree
  exact mk head children fun c _ => inductionOn c mk

/-! ### Spans -/

/-- The children of every node of a tree lie inside the node. -/
def Nested (tree : Concrete) : Prop := ∀ t ∈ tree.nodes, ∀ c ∈ t.children, c.span.Within t.span

/-- The children of every node of a tree stand one behind the other. -/
def Ordered (tree : Concrete) : Prop :=
  ∀ t ∈ tree.nodes, t.children.Pairwise fun a b => a.span.stop ≤ b.span.start

instance : Decidable (Nested tree) := by unfold Nested; infer_instance

instance : Decidable (Ordered tree) := by unfold Ordered; infer_instance

theorem mem_nodes_iff {head : ConcreteHead} {children : List Concrete} :
    d ∈ (mk head children).nodes ↔ d = mk head children ∨ ∃ c ∈ children, d ∈ c.nodes := by
  have all : ∀ ts : List Concrete, d ∈ nodesOfAll ts ↔ ∃ c ∈ ts, d ∈ c.nodes := by
    intro ts
    induction ts with
    | nil => simp [nodesOfAll]
    | cons t ts ih => simp [nodesOfAll, ih]
  rw [nodes, List.mem_cons, all]

theorem Nested.child (h : tree.Nested) (hc : c ∈ tree.children) : c.Nested :=
  fun t ht => h t (mem_nodes_of_mem_children hc ht)

theorem Ordered.child (h : tree.Ordered) (hc : c ∈ tree.children) : c.Ordered :=
  fun t ht => h t (mem_nodes_of_mem_children hc ht)

theorem Nested.within (h : tree.Nested) (hc : c ∈ tree.children) : c.span.Within tree.span :=
  h tree (mem_nodes_self tree) c hc

theorem within_trans {a b c : Span} (hab : a.Within b) (hbc : b.Within c) : a.Within c :=
  ⟨hbc.1.trans hab.1, hab.2.trans hbc.2⟩

/-- In a tree whose spans are nested every node lies inside the tree. -/
theorem Nested.within_of_mem_nodes (h : tree.Nested) (hd : d ∈ tree.nodes) :
    d.span.Within tree.span := by
  induction tree using inductionOn with
  | mk head children ih =>
    rcases mem_nodes_iff.1 hd with rfl | ⟨c, hc, hd⟩
    · exact ⟨le_rfl, le_rfl⟩
    · exact within_trans (ih c hc (h.child hc) hd) (h.within hc)

/-! ### The tokens from left to right -/

mutual

/-- The tokens of a tree, from left to right. -/
def tokens : Concrete → List Concrete
  | mk head children =>
    if isToken (mk head children) then
      if isLexeme (mk head children) then [mk head children] else []
    else tokensOfAll children

/-- The tokens of a list of trees, from left to right. -/
def tokensOfAll : List Concrete → List Concrete
  | [] => []
  | t :: ts => tokens t ++ tokensOfAll ts

end

theorem tokensOfAll_eq_flatMap (ts : List Concrete) : tokensOfAll ts = ts.flatMap tokens := by
  induction ts with
  | nil => rfl
  | cons t ts ih => rw [tokensOfAll, ih, List.flatMap_cons]

theorem tokens_of_isToken (h : t.isToken = true) :
    t.tokens = if t.isLexeme then [t] else [] := by
  obtain ⟨head, children⟩ := t
  rw [tokens, if_pos h]

theorem tokens_of_not_isToken (h : t.isToken = false) : t.tokens = t.children.flatMap tokens := by
  obtain ⟨head, children⟩ := t
  rw [tokens, h, tokensOfAll_eq_flatMap]
  rfl

theorem tokensWithin_of_isToken (h : t.isToken = true) : t.tokensWithin window =
    if t.isLexeme && t.liesIn window then [t] else [] := by
  obtain ⟨head, children⟩ := t
  rw [tokensWithin, if_pos h]

theorem tokensWithin_of_not_isToken (h : t.isToken = false) : t.tokensWithin window =
    t.children.flatMap fun c => if c.meets window then c.tokensWithin window else [] := by
  obtain ⟨head, children⟩ := t
  rw [tokensWithin, h, if_neg Bool.false_ne_true, Concrete.children]
  clear h
  induction children with
  | nil => rfl
  | cons c children ih => rw [tokensWithinAll, ih, List.flatMap_cons]

theorem tokensBefore_of_isToken (h : t.isToken = true) : t.tokensBefore limit =
    if t.isLexeme && decide (t.span.stop ≤ limit) then [t] else [] := by
  obtain ⟨head, children⟩ := t
  rw [tokensBefore, if_pos h]
  rfl

theorem tokensBefore_of_not_isToken (h : t.isToken = false) :
    t.tokensBefore limit = t.children.reverse.flatMap fun c =>
      if c.span.start < limit then c.tokensBefore limit else [] := by
  obtain ⟨head, children⟩ := t
  rw [tokensBefore, h, if_neg Bool.false_ne_true, Concrete.children]
  clear h
  induction children with
  | nil => rfl
  | cons c children ih =>
    rw [tokensBeforeAll, ih, List.reverse_cons, List.flatMap_append, List.flatMap_singleton]

/-- What is found before an offset is a token of the tree, whatever the spans are. -/
theorem mem_tokens_of_mem_tokensBefore (h : x ∈ tree.tokensBefore limit) : x ∈ tree.tokens := by
  induction tree using inductionOn with
  | mk head children ih =>
    cases token : (mk head children).isToken with
    | true =>
      rw [tokensBefore_of_isToken token] at h
      rw [tokens_of_isToken token]
      split at h
      · next found =>
        rw [Bool.and_eq_true] at found
        rwa [if_pos found.1]
      · cases h
    | false =>
      rw [tokensBefore_of_not_isToken token] at h
      rw [tokens_of_not_isToken token]
      obtain ⟨c, hc, h⟩ := List.mem_flatMap.1 h
      split at h
      · exact List.mem_flatMap.2 ⟨c, List.mem_reverse.1 hc, ih c (List.mem_reverse.1 hc) h⟩
      · cases h

theorem start_lt_stop_of_isLexeme (h : x.isLexeme = true) : x.span.start < x.span.stop := by
  simp only [isLexeme, Bool.and_eq_true, decide_eq_true_eq] at h
  exact h.2

/-- A token is not empty. -/
theorem start_lt_stop_of_mem_tokens (hx : x ∈ tree.tokens) : x.span.start < x.span.stop := by
  induction tree using inductionOn with
  | mk head children ih =>
    cases token : (mk head children).isToken with
    | true =>
      rw [tokens_of_isToken token] at hx
      split at hx
      · next lexeme =>
        rw [List.mem_singleton.1 hx]
        exact start_lt_stop_of_isLexeme lexeme
      · cases hx
    | false =>
      rw [tokens_of_not_isToken token] at hx
      obtain ⟨c, hc, hx⟩ := List.mem_flatMap.1 hx
      exact ih c hc hx

/-- In a tree whose spans are nested every token lies inside the tree. -/
theorem Nested.within_of_mem_tokens (h : tree.Nested) (hx : x ∈ tree.tokens) :
    x.span.Within tree.span := by
  induction tree using inductionOn with
  | mk head children ih =>
    cases token : (mk head children).isToken with
    | true =>
      rw [tokens_of_isToken token] at hx
      split at hx
      · rw [List.mem_singleton.1 hx]
        exact ⟨le_rfl, le_rfl⟩
      · cases hx
    | false =>
      rw [tokens_of_not_isToken token] at hx
      obtain ⟨c, hc, hx⟩ := List.mem_flatMap.1 hx
      exact within_trans (ih c hc (h.child hc) hx) (h.within hc)

/-! ### The traversals are filters -/

theorem liesIn_iff : x.liesIn window = true ↔ x.span.Within window := by
  simp [liesIn, Span.Within]

/-- A tree that holds a token inside a window shares a byte with the window. -/
theorem meets_of_liesIn (lexeme : x.span.start < x.span.stop) (hx : x.span.Within c.span)
    (h : x.liesIn window = true) : c.meets window = true := by
  have inside := liesIn_iff.1 h
  have := hx.1
  have := hx.2
  have := inside.1
  have := inside.2
  simp only [meets, Bool.and_eq_true, decide_eq_true_eq]
  omega

/-- Leaving out what shares no byte with a window loses no token inside the window. -/
theorem tokensWithin_eq_filter (h : tree.Nested) (window : Span) :
    tree.tokensWithin window = tree.tokens.filter (·.liesIn window) := by
  induction tree using inductionOn with
  | mk head children ih =>
    cases token : (mk head children).isToken with
    | true =>
      rw [tokensWithin_of_isToken token, tokens_of_isToken token]
      cases (mk head children).isLexeme <;> simp [List.filter_cons]
    | false =>
      rw [tokensWithin_of_not_isToken token, tokens_of_not_isToken token, List.filter_flatMap]
      refine List.flatMap_congr fun c hc => ?_
      cases meets : c.meets window with
      | true => exact ih c hc (h.child hc)
      | false =>
        refine (List.filter_eq_nil_iff.2 fun x hx inside => ?_).symm
        have within := (h.child hc).within_of_mem_tokens hx
        rw [meets_of_liesIn (start_lt_stop_of_mem_tokens hx) within inside] at meets
        cases meets

/-- Leaving out what does not start before an offset loses no token that stops there or earlier. -/
theorem tokensBefore_eq_filter (h : tree.Nested) (limit : ℕ) :
    tree.tokensBefore limit = (tree.tokens.filter (·.span.stop ≤ limit)).reverse := by
  induction tree using inductionOn with
  | mk head children ih =>
    cases token : (mk head children).isToken with
    | true =>
      rw [tokensBefore_of_isToken token, tokens_of_isToken token]
      cases (mk head children).isLexeme
      · rfl
      · by_cases stop : (mk head children).span.stop ≤ limit <;> simp [stop]
    | false =>
      rw [tokensBefore_of_not_isToken token, tokens_of_not_isToken token, List.filter_flatMap,
        List.reverse_flatMap]
      refine List.flatMap_congr fun c hc => ?_
      have hc := List.mem_reverse.1 hc
      split
      · exact ih c hc (h.child hc)
      · next start =>
        have none : c.tokens.filter (·.span.stop ≤ limit) = [] := by
          refine List.filter_eq_nil_iff.2 fun x hx stop => ?_
          have within := (h.child hc).within_of_mem_tokens hx
          have := within.1
          have := start_lt_stop_of_mem_tokens hx
          have := of_decide_eq_true stop
          omega
        simp [none]

/-! ### Ordered spans -/

/-- The tokens of a tree whose spans are nested and ordered stand one behind the other. -/
theorem pairwise_tokens (nested : tree.Nested) (ordered : tree.Ordered) :
    tree.tokens.Pairwise fun a b => a.span.stop ≤ b.span.start := by
  induction tree using inductionOn with
  | mk head children ih =>
    cases token : (mk head children).isToken with
    | true =>
      rw [tokens_of_isToken token]
      split
      · exact List.pairwise_singleton _ _
      · exact .nil
    | false =>
      rw [tokens_of_not_isToken token, List.pairwise_flatMap]
      refine ⟨fun c hc => ih c hc (nested.child hc) (ordered.child hc), ?_⟩
      have siblings := ordered _ (mem_nodes_self _)
      refine siblings.imp_of_mem fun {a b} ha hb hab x hx y hy => ?_
      have inA := (nested.child ha).within_of_mem_tokens hx
      have inB := (nested.child hb).within_of_mem_tokens hy
      exact inA.2.trans (hab.trans inB.1)

/-- A token and a node of a tree whose spans are nested and ordered lie one inside the other, or
one behind the other. -/
theorem inside_or_apart (nested : tree.Nested) (ordered : tree.Ordered) (hx : x ∈ tree.tokens)
    (hd : d ∈ tree.nodes) : x.span.Within d.span ∨ d.span.Within x.span ∨
      x.span.stop ≤ d.span.start ∨ d.span.stop ≤ x.span.start := by
  induction tree using inductionOn with
  | mk head children ih =>
    rcases mem_nodes_iff.1 hd with rfl | ⟨c, hc, hdc⟩
    · exact .inl (nested.within_of_mem_tokens hx)
    cases token : (mk head children).isToken with
    -- a token with parts contains the node
    | true =>
      rw [tokens_of_isToken token] at hx
      split at hx
      · rw [List.mem_singleton.1 hx]
        exact .inr (.inl (nested.within_of_mem_nodes hd))
      · cases hx
    | false =>
      rw [tokens_of_not_isToken token] at hx
      obtain ⟨c', hc', hxc⟩ := List.mem_flatMap.1 hx
      by_cases same : c' = c
      · subst same
        exact ih c' hc' (nested.child hc') (ordered.child hc') hxc hdc
      -- of two children the one is behind the other
      · have apart : c'.span.stop ≤ c.span.start ∨ c.span.stop ≤ c'.span.start := by
          have either :
              children.Pairwise (Relation.SymmGen fun a b => a.span.stop ≤ b.span.start) :=
            (ordered _ (mem_nodes_self _)).imp .inl
          exact either.forall hc' hc same
        have inC' := (nested.child hc').within_of_mem_tokens hxc
        have inC := (nested.child hc).within_of_mem_nodes hdc
        rcases apart with apart | apart
        · exact .inr (.inr (.inl (inC'.2.trans (apart.trans inC.1))))
        · exact .inr (.inr (.inr (inC.2.trans (apart.trans inC'.1))))

end Concrete

/-! ### Access to the tokens of a source -/

namespace TokenStream
variable {source : SourceText} {tree : Concrete}

/-- **Leaving out parts of a tree makes no difference. In a tree whose spans are nested, in whichever
order the children of a node stand, the first tokens inside a window are the first of all tokens
that lie in it, and the token before the window is the last of all tokens that stop where it starts,
or earlier.** -/
theorem tokens_eq_filter (nested : tree.Nested) (window : Span) (count : ℕ) :
    let stream : TokenStream := ⟨source, tree⟩
    stream.firstTokens window count =
        ((tree.tokens.filter fun x => window.start ≤ x.span.start ∧ x.span.stop ≤ window.stop).take
          count).map (Token.ofConcrete source) ∧
      stream.tokenBefore? window.start =
        (tree.tokens.filter fun x => x.span.stop ≤ window.start).getLast?.map
          (Token.ofConcrete source) := by
  constructor
  · have inside : tree.tokensWithin window = tree.tokens.filter fun x =>
        window.start ≤ x.span.start ∧ x.span.stop ≤ window.stop := by
      rw [Concrete.tokensWithin_eq_filter nested]
      exact List.filter_congr fun x _ => (Bool.decide_and ..).symm
    rw [firstTokens, if_neg (by omega), Int.toNat_natCast, within, inside, List.map_take]
  · rw [tokenBefore?, Concrete.tokensBefore_eq_filter nested, List.head?_reverse]

/-- A tree whose first child stands behind its second one, with a string of three parts, and with an
empty part and a comment between tokens that touch each other. -/
def shuffledTree : Concrete :=
  .mk ⟨true, "program", "", ⟨0, 9⟩⟩ [
    .mk ⟨true, "array", "", ⟨4, 9⟩⟩ [
      .mk ⟨true, "identifier", "", ⟨8, 9⟩⟩ [],
      .mk ⟨true, "comment", "", ⟨6, 8⟩⟩ [],
      .mk ⟨true, "identifier", "", ⟨6, 6⟩⟩ [],
      .mk ⟨false, "+", "", ⟨5, 6⟩⟩ []],
    .mk ⟨true, "array", "", ⟨0, 5⟩⟩ [
      .mk ⟨true, "string", "", ⟨0, 3⟩⟩ [
        .mk ⟨false, "'", "", ⟨0, 1⟩⟩ [],
        .mk ⟨true, "string_fragment", "", ⟨1, 2⟩⟩ [],
        .mk ⟨false, "'", "", ⟨2, 3⟩⟩ []],
      .mk ⟨true, "number", "", ⟨3, 5⟩⟩ []]]

/-- The tokens are listed as they stand in the tree. The string is one token, so no token lies in
the part of it between the quotes, and none stops in front of that part. -/
theorem shuffledTree_tokens : let stream : TokenStream := ⟨.ofString "'a'12+//b", shuffledTree⟩
    shuffledTree.Nested ∧ ¬shuffledTree.Ordered ∧
      (stream.firstTokens ⟨3, 9⟩ 2).map (·.span) = [⟨8, 9⟩, ⟨5, 6⟩] ∧
      (stream.tokenBefore? 6).map (·.span) = some ⟨3, 5⟩ ∧
      (stream.firstTokens ⟨0, 9⟩ 5).map (·.span) = [⟨8, 9⟩, ⟨5, 6⟩, ⟨0, 3⟩, ⟨3, 5⟩] ∧
      stream.firstTokens ⟨1, 2⟩ 1 = [] ∧ stream.tokenBefore? 1 = none := by
  have nested : shuffledTree.Nested := by decide +kernel
  have tokens := @tokens_eq_filter (.ofString "'a'12+//b") _ nested
  obtain ⟨part, -⟩ := tokens ⟨3, 9⟩ 2
  obtain ⟨-, before⟩ := tokens ⟨6, 9⟩ 0
  obtain ⟨all, -⟩ := tokens ⟨0, 9⟩ 5
  obtain ⟨between, front⟩ := tokens ⟨1, 2⟩ 1
  refine ⟨nested, by decide +kernel, ?_, ?_, ?_, ?_, ?_⟩
  · rw [show (2 : ℤ) = (2 : ℕ) from rfl, part]
    decide +kernel
  · rw [before]
    decide +kernel
  · rw [show (5 : ℤ) = (5 : ℕ) from rfl, all]
    decide +kernel
  · rw [show (1 : ℤ) = (1 : ℕ) from rfl, between]
    decide +kernel
  · rw [front]
    decide +kernel

end TokenStream

end PropOrder
