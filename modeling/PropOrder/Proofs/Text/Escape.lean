import Mathlib.Data.List.TakeWhile
import Mathlib.Data.Nat.Digits.Lemmas
import PropOrder.Proofs.Text.Spelling

/-!
# Escapes

What the body of a quoted literal consists of, said without reading it by a function. Behind a
backslash stands one of four forms of several characters if there is one, and else one character
(`Escape`). From left to right a body is cut into escapes and into characters that are no part of
one (`Scanned`), in one way only (`exists_scanned_iff`), and reading it gives what these chunks
stand for (`Scanned.scan_eq`).

So a quoted literal has a value exactly if none of its chunks is an escape in braces whose number is
too large, and else the first such chunk decides how reading it fails (`literalValue_outcome`).
-/

namespace PropOrder.Text
variable {c n v : ℕ} {body digits more more' rest w w' : Text} {piece piece' : Piece}

/-! ### Forms of escapes -/

/-- The escapes of more than one character, without the backslash in front, and what they stand
for. -/
inductive LongEscape : Text → Piece → Prop where
  /-- A number in braces, of at least one digit. -/
  | braced {digits : Text} {n : ℕ} (nonempty : digits ≠ []) (h : Hexadecimal digits n) :
      LongEscape (code 'u' :: code '{' :: (digits ++ [code '}'])) (.numeric n)
  /-- A number of four digits. -/
  | four {digits : Text} {n : ℕ} (length : digits.length = 4) (h : Hexadecimal digits n) :
      LongEscape (code 'u' :: digits) (.numeric n)
  /-- A number of two digits. -/
  | two {digits : Text} {n : ℕ} (length : digits.length = 2) (h : Hexadecimal digits n) :
      LongEscape (code 'x' :: digits) (.numeric n)
  /-- A line break of two characters. -/
  | lineBreak : LongEscape [code '\r', code '\n'] .continuation

/-- What an escape is in front of a rest, without its backslash, and what it stands for. Only where
no form of several characters begins it is one character. -/
inductive Escape (rest : Text) : Text → Piece → Prop where
  /-- A form of several characters. -/
  | long {w : Text} {piece : Piece} (h : LongEscape w piece) : Escape rest w piece
  /-- One character. -/
  | short {c : ℕ} (none : ∀ w piece, LongEscape w piece → ¬w <+: c :: rest) :
      Escape rest [c] (singleEscape c)

/-! ### Digits -/

theorem exists_mem_hexTable (h : isHexDigit c = true) : ∃ d ∈ hexTable, code d.1 = c := by
  have listed : ∀ c < 128, isHexDigit c = true → ∃ d ∈ hexTable, code d.1 = c := by decide
  refine listed c ?_ h
  simp only [isHexDigit, asciiDigit?, isDigitAscii, isUpperAscii, Bool.and_eq_true,
    decide_eq_true_eq, Option.any_eq_true] at h
  obtain ⟨digit, value, bound⟩ := h
  have a : code 'a' = 97 := rfl
  have A : code 'A' = 65 := rfl
  have zero : code '0' = 48 := rfl
  have nine : code '9' = 57 := rfl
  have z : code 'z' = 122 := rfl
  have Z : code 'Z' = 90 := rfl
  split_ifs at value <;> simp only [Option.some.injEq] at value <;> omega

/-- Any digits spell a number. -/
theorem hexadecimal_hexValue (hex : ∀ c ∈ digits, isHexDigit c = true) :
    Hexadecimal digits (hexValue digits) := by
  have spelled : ∃ spelled : List (Char × ℕ), (∀ d ∈ spelled, d ∈ hexTable) ∧
      digits = spelled.map (code ·.1) := by
    induction digits with
    | nil => exact ⟨[], by simp, rfl⟩
    | cons c digits ih =>
      obtain ⟨d, hd, rfl⟩ := exists_mem_hexTable (hex c (List.mem_cons_self ..))
      obtain ⟨spelled, listed, rfl⟩ := ih fun c hc => hex c (List.mem_cons_of_mem _ hc)
      exact ⟨d :: spelled, List.forall_mem_cons.2 ⟨hd, listed⟩, rfl⟩
  obtain ⟨spelled, listed, written⟩ := spelled
  have number : Hexadecimal digits _ := ⟨spelled, listed, written, rfl⟩
  rwa [← number.hexValue_eq] at number

/-- Few digits spell a small number. -/
theorem Hexadecimal.lt_pow (h : Hexadecimal digits n) : n < 16 ^ digits.length := by
  obtain ⟨spelled, listed, rfl, rfl⟩ := h
  have small : ∀ value ∈ (spelled.map (·.2)).reverse, value < 16 := by
    intro value hv
    obtain ⟨d, hd, rfl⟩ := List.mem_map.1 (List.mem_reverse.1 hv)
    exact (asciiDigit?_of_mem_hexTable d (listed d hd)).2
  simpa using Nat.ofDigits_lt_base_pow_length (by decide : 1 < 16) small

/-! ### Reading an escape -/

/-- What stands behind the front of a list. -/
theorem head?_dropWhile {α : Type} (p : α → Bool) (l : List α) :
    (l.dropWhile p).head? = l[(l.takeWhile p).length]? := by
  induction l with
  | nil => rfl
  | cons a l ih => by_cases h : p a = true <;> simp [h, ih]

theorem exists_of_braced?_eq_some {length : ℕ} (h : braced? rest = some (n, length)) :
    ∃ digits more, digits ≠ [] ∧ Hexadecimal digits n ∧
      rest = code '{' :: (digits ++ [code '}']) ++ more := by
  unfold braced? at h
  split at h
  · next rest =>
    dsimp only at h
    split at h
    · next found =>
      obtain ⟨rfl, -⟩ := Prod.mk.inj (Option.some.inj h)
      rw [Bool.and_eq_true, beq_iff_eq, ← head?_dropWhile] at found
      obtain ⟨nonempty, closing⟩ := found
      have hex : ∀ c ∈ rest.takeWhile isHexDigit, isHexDigit c = true :=
        fun c hc => List.mem_takeWhile_imp hc
      refine ⟨rest.takeWhile isHexDigit, (rest.dropWhile isHexDigit).tail,
        by simpa using nonempty, hexadecimal_hexValue hex, ?_⟩
      calc 0x7B :: rest
          = 0x7B :: (rest.takeWhile isHexDigit ++ rest.dropWhile isHexDigit) := by
            rw [List.takeWhile_append_dropWhile]
        _ = 0x7B :: (rest.takeWhile isHexDigit ++ 0x7D :: (rest.dropWhile isHexDigit).tail) := by
            rw [List.cons_head?_tail closing]
        _ = code '{' :: (rest.takeWhile isHexDigit ++ [code '}']) ++
              (rest.dropWhile isHexDigit).tail := by
            rw [List.cons_append, List.append_assoc]
            rfl
    · cases h
  · cases h

theorem exists_of_hexPair?_eq_some {width : ℕ} (h : hexPair? width rest = some n) :
    ∃ digits more, digits.length = width ∧ Hexadecimal digits n ∧ rest = digits ++ more := by
  unfold hexPair? at h
  dsimp only at h
  split at h
  · next found =>
    obtain rfl := Option.some.inj h
    rw [Bool.and_eq_true, beq_iff_eq, List.all_eq_true] at found
    exact ⟨rest.take width, rest.drop width, found.1, hexadecimal_hexValue found.2,
      (List.take_append_drop width rest).symm⟩
  · cases h

/-- Where no form of several characters begins one character is taken. -/
theorem escapeAt_short (none : ∀ w piece, LongEscape w piece → ¬w <+: c :: rest) :
    escapeAt c rest = (singleEscape c, 0) := by
  have pair (width : ℕ) (form : ∀ digits n, digits.length = width → Hexadecimal digits n →
      ∃ piece, LongEscape (c :: digits) piece) : hexPair? width rest = Option.none := by
    rw [Option.eq_none_iff_forall_ne_some]
    rintro n found
    obtain ⟨digits, more, length, h, rfl⟩ := exists_of_hexPair?_eq_some found
    obtain ⟨piece, long⟩ := form digits n length h
    exact none _ _ long ⟨more, rfl⟩
  by_cases u : c = code 'u'
  · subst u
    have braces : braced? rest = Option.none := by
      rw [Option.eq_none_iff_forall_ne_some]
      rintro ⟨n, length⟩ found
      obtain ⟨digits, more, nonempty, h, rfl⟩ := exists_of_braced?_eq_some found
      exact none _ _ (.braced nonempty h) ⟨more, rfl⟩
    have digits := pair 4 fun digits n length h => ⟨_, .four length h⟩
    rw [escapeAt, if_pos rfl, braces, digits]
    rfl
  by_cases x : c = code 'x'
  · subst x
    have digits := pair 2 fun digits n length h => ⟨_, .two length h⟩
    rw [escapeAt, if_neg u, if_pos rfl, digits]
    rfl
  have lineBreak : ¬(c = 0x0D ∧ rest.head? = some 0x0A) := by
    rintro ⟨rfl, first⟩
    exact none _ _ .lineBreak ⟨rest.tail, congrArg (0x0D :: ·) (List.cons_head?_tail first)⟩
  rw [escapeAt, if_neg u, if_neg x, if_neg lineBreak]

/-- An escape is read as what it stands for, and nothing behind it is taken. -/
theorem Escape.escapeAt_eq (h : Escape rest w piece) :
    ∃ c v, w = c :: v ∧ escapeAt c (v ++ rest) = (piece, v.length) := by
  cases h with
  | long h =>
    cases h with
    | braced nonempty h => exact ⟨_, _, rfl, escapeAt_braced nonempty h rest⟩
    | four length h => exact ⟨_, _, rfl, escapeAt_four length h rest⟩
    | two length h => exact ⟨_, _, rfl, escapeAt_two length h rest⟩
    | lineBreak => exact ⟨_, _, rfl, rfl⟩
  | @short c none => exact ⟨c, [], rfl, escapeAt_short none⟩

/-- What follows a backslash begins with an escape. -/
theorem exists_escape (c : ℕ) (rest : Text) :
    ∃ w more piece, c :: rest = w ++ more ∧ Escape more w piece := by
  by_cases long : ∃ w piece, LongEscape w piece ∧ w <+: c :: rest
  · obtain ⟨w, piece, h, more, written⟩ := long
    exact ⟨w, more, piece, written.symm, .long h⟩
  · refine ⟨[c], rest, _, rfl, .short fun w piece h front => long ⟨w, piece, h, front⟩⟩

/-- It begins with one escape only. -/
theorem Escape.unique (h : Escape more w piece) (h' : Escape more' w' piece')
    (same : w ++ more = w' ++ more') : w = w' ∧ piece = piece' ∧ more = more' := by
  obtain ⟨c, v, rfl, taken⟩ := h.escapeAt_eq
  obtain ⟨c', v', rfl, taken'⟩ := h'.escapeAt_eq
  obtain ⟨rfl, behind⟩ : c = c' ∧ v ++ more = v' ++ more' := List.cons.inj same
  rw [behind, taken'] at taken
  obtain ⟨rfl, length⟩ := Prod.mk.inj taken
  obtain ⟨rfl, rfl⟩ := List.append_inj behind length.symm
  exact ⟨rfl, rfl, rfl⟩

/-! ### Cutting a body -/

/-- A stretch of a body, and what it stands for. -/
structure Chunk where
  /-- The stretch of the body. -/
  text : Text
  /-- What it stands for. -/
  piece : Piece

/-- The body is cut into chunks, from left to right. A backslash that nothing follows stands for
itself, and every other one opens an escape. -/
inductive Scanned : Text → List Chunk → Prop where
  | nil : Scanned [] []
  | plain {c : ℕ} {body : Text} {chunks : List Chunk} (h : c ≠ code '\\')
      (rest : Scanned body chunks) : Scanned (c :: body) (⟨[c], .single c⟩ :: chunks)
  | last : Scanned [code '\\'] [⟨[code '\\'], .single (code '\\')⟩]
  | escape {w body : Text} {piece : Piece} {chunks : List Chunk} (h : Escape body w piece)
      (rest : Scanned body chunks) :
      Scanned (code '\\' :: (w ++ body)) (⟨code '\\' :: w, piece⟩ :: chunks)

variable {chunks chunks' : List Chunk}

theorem exists_scanned (body : Text) : ∃ chunks, Scanned body chunks := by
  match body with
  | [] => exact ⟨[], .nil⟩
  | [c] =>
    by_cases backslash : c = code '\\'
    · rw [backslash]
      exact ⟨_, .last⟩
    · exact ⟨_, .plain backslash .nil⟩
  | c :: d :: body =>
    by_cases backslash : c = code '\\'
    · obtain ⟨w, more, piece, written, h⟩ := exists_escape d body
      have shorter : more.length < body.length + 2 := by
        have := congrArg List.length written
        simp only [List.length_cons, List.length_append] at this
        omega
      obtain ⟨chunks, rest⟩ := exists_scanned more
      rw [backslash, written]
      exact ⟨_, .escape h rest⟩
    · obtain ⟨chunks, rest⟩ := exists_scanned (d :: body)
      exact ⟨_, .plain backslash rest⟩
termination_by body.length

/-- What is cut off behind a backslash. -/
theorem Scanned.of_backslash (h : Scanned (code '\\' :: rest) chunks) :
    (rest = [] ∧ chunks = [⟨[code '\\'], .single (code '\\')⟩]) ∨
      ∃ w more piece chunks', rest = w ++ more ∧ Escape more w piece ∧ Scanned more chunks' ∧
        chunks = ⟨code '\\' :: w, piece⟩ :: chunks' := by
  generalize hb : code '\\' :: rest = body at h
  cases h with
  | nil => cases hb
  | plain other _ =>
    obtain ⟨rfl, -⟩ := List.cons.inj hb
    exact absurd rfl other
  | last => exact .inl ⟨(List.cons.inj hb).2, rfl⟩
  | escape h rest => exact .inr ⟨_, _, _, _, (List.cons.inj hb).2, h, rest, rfl⟩

theorem Scanned.unique (h : Scanned body chunks) (h' : Scanned body chunks') :
    chunks' = chunks := by
  induction h generalizing chunks' with
  | nil =>
    cases h' with
    | nil => rfl
  | plain other _ ih =>
    cases h' with
    | plain _ rest => rw [ih rest]
    | last => exact absurd rfl other
    | escape => exact absurd rfl other
  | last =>
    rcases h'.of_backslash with ⟨-, rfl⟩ | ⟨w, more, piece, rest, nothing, h, -, -⟩
    · rfl
    · obtain ⟨c, v, rfl, -⟩ := h.escapeAt_eq
      cases nothing
  | @escape w body piece chunks h _ ih =>
    rcases h'.of_backslash with ⟨nothing, -⟩ | ⟨w', more, piece', rest, same, other, scanned, rfl⟩
    · obtain ⟨c, v, rfl, -⟩ := h.escapeAt_eq
      cases nothing
    · obtain ⟨rfl, rfl, rfl⟩ := h.unique other same
      rw [ih scanned]

/-- A body is cut into chunks in one way. -/
theorem exists_scanned_iff (body : Text) : ∃ chunks, ∀ cs, Scanned body cs ↔ cs = chunks := by
  obtain ⟨chunks, h⟩ := exists_scanned body
  exact ⟨chunks, fun cs => ⟨h.unique, fun same => same ▸ h⟩⟩

/-- Reading a body gives what its chunks stand for. -/
theorem Scanned.scan_eq (h : Scanned body chunks) : scan body = chunks.map Chunk.piece := by
  induction h with
  | nil => rfl
  | plain other _ ih => rw [scan_plain other, ih, List.map_cons]
  | last => rfl
  | escape h _ ih =>
    obtain ⟨c, v, rfl, taken⟩ := h.escapeAt_eq
    rw [List.cons_append, scan_escape taken, ih, List.map_cons]

/-! ### Numbers that are too large -/

/-- A chunk is an escape in braces, and its number is above the last code point. -/
def Chunk.Exceeds (chunk : Chunk) (v : ℕ) : Prop :=
  0x10FFFF < v ∧ ∃ digits, digits ≠ [] ∧ Hexadecimal digits v ∧
    chunk.text = code '\\' :: code 'u' :: code '{' :: (digits ++ [code '}'])

/-- Only the number of an escape in braces may be too large. -/
theorem LongEscape.exceeds (h : LongEscape w (.numeric v)) (large : 0x10FFFF < v) :
    Chunk.Exceeds ⟨code '\\' :: w, .numeric v⟩ v := by
  cases h with
  | braced nonempty h => exact ⟨large, _, nonempty, h, rfl⟩
  | four length h =>
    have := h.lt_pow
    rw [length] at this
    omega
  | two length h =>
    have := h.lt_pow
    rw [length] at this
    omega

theorem singleEscape_ne_numeric (c v : ℕ) : singleEscape c ≠ .numeric v := by
  unfold singleEscape
  split <;> nofun

/-- A chunk stands for a number that is too large exactly if it is an escape that spells it in
braces. -/
theorem Scanned.exceeds_iff (h : Scanned body chunks) :
    ∀ chunk ∈ chunks, ∀ v, chunk.Exceeds v ↔ chunk.piece = .numeric v ∧ 0x10FFFF < v := by
  have short {c v : ℕ} : ¬Chunk.Exceeds ⟨[c], .single c⟩ v := by
    rintro ⟨-, digits, -, -, written⟩
    cases written
  induction h with
  | nil => nofun
  | plain _ _ ih =>
    refine List.forall_mem_cons.2 ⟨fun v => ⟨fun exceeds => (short exceeds).elim, ?_⟩, ih⟩
    rintro ⟨number, -⟩
    cases number
  | last =>
    refine List.forall_mem_singleton.2 fun v => ⟨fun exceeds => (short exceeds).elim, ?_⟩
    rintro ⟨number, -⟩
    cases number
  | @escape w body piece chunks h _ ih =>
    refine List.forall_mem_cons.2 ⟨fun v => ⟨?_, ?_⟩, ih⟩
    · rintro ⟨large, digits, nonempty, number, written⟩
      obtain ⟨-, rfl⟩ := List.cons.inj written
      obtain ⟨-, rfl, -⟩ := h.unique (.long (.braced nonempty number)) rfl
      exact ⟨rfl, large⟩
    · rintro ⟨number, large⟩
      cases h with
      | long h =>
        cases number
        exact h.exceeds large
      | short => exact absurd number (singleEscape_ne_numeric _ v)

/-- A piece has no value exactly if it is a number that is too large. -/
theorem Piece.value_eq_error_iff {fault : Fault} :
    piece.value = .error fault ↔
      ∃ v, piece = .numeric v ∧ 0x10FFFF < v ∧ fault = .codePointTooLarge v := by
  cases piece with
  | single c => simp [Piece.value]
  | continuation => simp [Piece.value]
  | numeric v =>
    rw [Piece.value]
    split
    · next fits =>
      simp only [reduceCtorEq, Piece.numeric.injEq, false_iff, not_exists]
      rintro u ⟨rfl, large, -⟩
      omega
    · next exceeds =>
      simp only [Except.error.injEq, Piece.numeric.injEq, eq_comm (a := fault)]
      constructor
      · rintro rfl
        exact ⟨v, rfl, by omega, rfl⟩
      · rintro ⟨u, rfl, -, rfl⟩
        rfl

/-- A body fails to be read exactly if one of its chunks is too large, and as the first one says. -/
theorem Scanned.unescape_eq_error_iff {fault : Fault} (h : Scanned body chunks) :
    unescape body = .error fault ↔ ∃ front chunk back v, chunks = front ++ chunk :: back ∧
      chunk.Exceeds v ∧ (∀ earlier ∈ front, ∀ u, ¬earlier.Exceeds u) ∧
        fault = .codePointTooLarge v := by
  have failing := h.exceeds_iff
  rw [unescape, bind_pure_eq_error_iff, h.scan_eq, List.mapM_map, mapM_eq_error_iff]
  constructor
  · rintro ⟨front, chunk, back, rfl, before, failed⟩
    obtain ⟨v, number, large, rfl⟩ := Piece.value_eq_error_iff.1 failed
    refine ⟨front, chunk, back, v, rfl, (failing chunk (by simp) v).2 ⟨number, large⟩, ?_, rfl⟩
    intro earlier he u exceeds
    obtain ⟨number, large⟩ := (failing earlier (by simp [he]) u).1 exceeds
    exact before earlier he _ (Piece.value_eq_error_iff.2 ⟨u, number, large, rfl⟩)
  · rintro ⟨front, chunk, back, v, rfl, exceeds, before, rfl⟩
    obtain ⟨number, large⟩ := (failing chunk (by simp) v).1 exceeds
    refine ⟨front, chunk, back, rfl, fun earlier he fault failed => ?_,
      Piece.value_eq_error_iff.2 ⟨v, number, large, rfl⟩⟩
    obtain ⟨u, number, large, -⟩ := Piece.value_eq_error_iff.1 failed
    exact before earlier he u ((failing earlier (by simp [he]) u).2 ⟨number, large⟩)

/-- A body is read exactly if none of its chunks is too large. -/
theorem Scanned.unescape_eq_ok_iff (h : Scanned body chunks) :
    (∃ t, unescape body = .ok t) ↔ ∀ chunk ∈ chunks, ∀ v, ¬chunk.Exceeds v := by
  constructor
  · rintro ⟨t, value⟩ chunk hc v exceeds
    rw [unescape, h.scan_eq, List.mapM_map] at value
    obtain ⟨texts, each, -⟩ := bind_eq_ok_iff.1 value
    obtain ⟨text, -, answer⟩ := exists_answer_of_mem each hc
    obtain ⟨number, large⟩ := (h.exceeds_iff chunk hc v).1 exceeds
    cases answer.symm.trans (Piece.value_eq_error_iff.2 ⟨v, number, large, rfl⟩)
  · intro fits
    cases value : unescape body with
    | ok t => exact ⟨t, rfl⟩
    | error fault =>
      obtain ⟨front, chunk, back, v, rfl, exceeds, -⟩ := h.unescape_eq_error_iff.1 value
      exact absurd exceeds (fits chunk (by simp) v)

/-- **A quoted literal has a value exactly if none of the chunks that its body is cut into is an
escape in braces with a number above the last code point. Else the first such chunk decides the
fault, and whether the fault is about a number beyond the machine word.** -/
theorem literalValue_outcome (raw : Text) :
    ∃ chunks, (∀ cs, Scanned (withoutEnds raw) cs ↔ cs = chunks) ∧
      ((∃ t, literalValue raw = .ok t) ↔ ∀ chunk ∈ chunks, ∀ v, ¬chunk.Exceeds v) ∧
      ∀ fault, literalValue raw = .error fault ↔ ∃ front chunk back v,
        chunks = front ++ chunk :: back ∧ chunk.Exceeds v ∧
          (∀ earlier ∈ front, ∀ u, ¬earlier.Exceeds u) ∧ fault = .codePointTooLarge v ∧
            (fault.exceedsWord = true ↔ 0x7FFFFFFF < v) := by
  obtain ⟨chunks, only⟩ := exists_scanned_iff (withoutEnds raw)
  have scanned := (only chunks).2 rfl
  refine ⟨chunks, only, ?_, fun fault => ?_⟩
  · rw [← scanned.unescape_eq_ok_iff, literalValue]
    constructor
    · rintro ⟨t, value⟩
      obtain ⟨body, read, -⟩ := bind_eq_ok_iff.1 value
      exact ⟨body, read⟩
    · rintro ⟨body, read⟩
      exact ⟨merge body, by rw [read]; rfl⟩
  · rw [literalValue, bind_pure_eq_error_iff, scanned.unescape_eq_error_iff]
    constructor
    · rintro ⟨front, chunk, back, v, split, exceeds, before, rfl⟩
      exact ⟨front, chunk, back, v, split, exceeds, before, rfl, decide_eq_true_iff⟩
    · rintro ⟨front, chunk, back, v, split, exceeds, before, decided, -⟩
      exact ⟨front, chunk, back, v, split, exceeds, before, decided⟩

/-- Behind an escaped backslash no escape begins, and a backslash at the end stands for itself. -/
example : literalValue (ofString "'\\\\u\x7b110000\x7d\\'") =
    .ok (ofString "\\u\x7b110000\x7d\\") := by
  decide +kernel

end PropOrder.Text
