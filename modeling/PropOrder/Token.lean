import PropOrder.Concrete
import PropOrder.Site
import PropOrder.Text.Blank
import PropOrder.Text.Letter

/-!
# Tokens

The tokens of a source are the leaves of its concrete tree, where some kinds count as one token
though they have parts; comments and empty leaves are no tokens. `TokenStream.within` lists the
tokens of a window from left to right and `TokenStream.before` those that stop before an offset from
right to left; both leave out the parts of the tree that lie outside by their spans.

A token found before an offset starts before it (`start_lt_of_tokenBefore?`), so looking back over
blank markup comes to an end.
-/

namespace PropOrder

namespace Concrete

/-- The kinds that count as one token though they have parts. -/
def atomicKinds : List String := ["string", "template_string", "regex", "jsx_text"]

/-- Whether a node counts as one token. -/
def isToken (t : Concrete) : Bool := t.children.isEmpty || atomicKinds.contains t.kind

/-- Whether a token belongs to the stream: it is no comment and not empty. -/
def isLexeme (t : Concrete) : Bool := t.kind != "comment" && t.span.start < t.span.stop

/-- Whether a node shares a byte with a window. -/
def meets (window : Span) (t : Concrete) : Bool :=
  window.start < t.span.stop && t.span.start < window.stop

/-- Whether a node lies inside a window. -/
def liesIn (window : Span) (t : Concrete) : Bool :=
  window.start ≤ t.span.start && t.span.stop ≤ window.stop

mutual

/-- The tokens of a tree that lie inside a window, from left to right. -/
def tokensWithin (window : Span) : Concrete → List Concrete
  | mk head children =>
    if isToken (mk head children) then
      if isLexeme (mk head children) && liesIn window (mk head children) then [mk head children]
      else []
    else tokensWithinAll window children

/-- The tokens of the trees that meet a window, in order. -/
def tokensWithinAll (window : Span) : List Concrete → List Concrete
  | [] => []
  | t :: ts => (if meets window t then tokensWithin window t else []) ++ tokensWithinAll window ts

end

mutual

/-- The tokens of a tree that stop at or before an offset, from right to left. -/
def tokensBefore (limit : Nat) : Concrete → List Concrete
  | mk head children =>
    if isToken (mk head children) then
      if isLexeme (mk head children) && decide (head.span.stop ≤ limit) then [mk head children]
      else []
    else tokensBeforeAll limit children

/-- The tokens of the trees that start before an offset, the last tree first. -/
def tokensBeforeAll (limit : Nat) : List Concrete → List Concrete
  | [] => []
  | t :: ts =>
    tokensBeforeAll limit ts ++ (if t.span.start < limit then tokensBefore limit t else [])

end

mutual

/-- A token found before an offset is a lexeme that stops there or earlier. -/
theorem of_mem_tokensBefore {limit : Nat} {x : Concrete} :
    ∀ t, x ∈ tokensBefore limit t → x.isLexeme ∧ x.span.stop ≤ limit
  | mk head children, h => by
    rw [tokensBefore] at h
    split at h
    · split at h
      · next hx =>
        obtain rfl := List.mem_singleton.1 h
        rw [Bool.and_eq_true] at hx
        exact ⟨hx.1, of_decide_eq_true hx.2⟩
      · cases h
    · exact of_mem_tokensBeforeAll children h

theorem of_mem_tokensBeforeAll {limit : Nat} {x : Concrete} :
    ∀ ts, x ∈ tokensBeforeAll limit ts → x.isLexeme ∧ x.span.stop ≤ limit
  | [], h => by cases h
  | t :: ts, h => by
    rw [tokensBeforeAll] at h
    rcases List.mem_append.1 h with h | h
    · exact of_mem_tokensBeforeAll ts h
    · split at h
      · exact of_mem_tokensBefore t h
      · cases h

end

end Concrete

/-- A token of a source. -/
structure Token where
  /-- The sort of the token. -/
  sort : String
  /-- The text of the token. -/
  value : Text
  /-- The bytes of the source that the token covers. -/
  span : Span
  /-- The rows and columns of the span. -/
  location : Location
  deriving DecidableEq

namespace Token

/-- The sorts of tokens that are more than a fixed word or sign. -/
def sorts : List (String × String) := [
  ("string", "String"),
  ("template_string", "Template"),
  ("regex", "RegularExpression"),
  ("number", "Numeric"),
  ("jsx_text", "JSXText"),
  ("true", "Boolean"),
  ("false", "Boolean"),
  ("null", "Null"),
  ("identifier", "Identifier"),
  ("property_identifier", "Identifier"),
  ("shorthand_property_identifier", "Identifier"),
  ("shorthand_property_identifier_pattern", "Identifier"),
  ("type_identifier", "Identifier")]

/-- Whether a fixed token is a word. -/
def isWord (kind : String) : Bool :=
  !kind.isEmpty && kind.toList.all fun c => Text.isLetter c.toNat

/-- The sort of a concrete node as a token. -/
def sortOf (t : Concrete) : String :=
  if t.head.named then (sorts.lookup t.kind).getD "Punctuator"
  else if isWord t.kind then "Keyword"
  else "Punctuator"

/-- The token of a concrete node. -/
def ofConcrete (source : SourceText) (t : Concrete) : Token :=
  ⟨sortOf t, source.text t.span, t.span, t.location source⟩

/-- The part of a text after its last line feed. -/
def lastLine (t : Text) : Text := (t.reverse.takeWhile (· != 0x0A)).reverse

/-- Whether a token is text of markup whose last line is blank. -/
def isBlankMarkup (t : Token) : Bool := t.sort == "JSXText" && (lastLine t.value).allBlank

end Token

/-- A source with its concrete tree, as a stream of tokens. -/
structure TokenStream where
  /-- The source. -/
  source : SourceText
  /-- The concrete tree of the source. -/
  tree : Concrete

namespace TokenStream

/-- The tokens inside a window, from left to right. -/
def within (ts : TokenStream) (window : Span) : List Token :=
  (ts.tree.tokensWithin window).map (Token.ofConcrete ts.source)

/-- The first tokens inside a window; a negative count asks for all. -/
def firstTokens (ts : TokenStream) (window : Span) (count : Int) : List Token :=
  if count < 0 then ts.within window else (ts.within window).take count.toNat

/-- The last token that stops at or before an offset. -/
def tokenBefore? (ts : TokenStream) (offset : Nat) : Option Token :=
  (ts.tree.tokensBefore offset).head?.map (Token.ofConcrete ts.source)

/-- A token before an offset starts before it. -/
theorem start_lt_of_tokenBefore? {ts : TokenStream} {offset : Nat} {t : Token}
    (h : ts.tokenBefore? offset = some t) : t.span.start < offset := by
  obtain ⟨c, hc, rfl⟩ := Option.map_eq_some_iff.1 h
  have hx := Concrete.of_mem_tokensBefore _ (List.mem_of_head? hc)
  have hl : c.span.start < c.span.stop := by
    have := hx.1
    simp only [Concrete.isLexeme, Bool.and_eq_true, decide_eq_true_eq] at this
    exact this.2
  exact Nat.lt_of_lt_of_le hl hx.2

/-- The last token before an offset, looking back over blank markup. -/
def lineToken? (ts : TokenStream) (offset : Nat) : Option Token :=
  match _h : ts.tokenBefore? offset with
  | none => none
  | some t => if t.isBlankMarkup then ts.lineToken? t.span.start else some t
termination_by offset
decreasing_by exact start_lt_of_tokenBefore? _h

/-- Whether nothing but white space precedes a node in its row. Without a location a node counts
as standing in a row of its own, and so does the beginning of the source. -/
def isFirstInLine (ts : TokenStream) (s : Site) : Bool :=
  let startRow : Int := match s.location with
    | some l => l.start.row
    | none => -1
  let stopRow : Int := match ts.lineToken? s.span.start with
    | some t => t.location.stop.row
    | none => -1
  startRow != stopRow

end TokenStream

end PropOrder
