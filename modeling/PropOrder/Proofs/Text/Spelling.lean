import Mathlib.Data.Nat.Digits.Defs
import PropOrder.Proofs.Outcome
import PropOrder.Text.Escape

/-!
# Spellings of a text

The body of a quoted literal spells a text: each character stands as it is or in one of several
escaped forms, and escaped line breaks may stand in between (`Body`). The forms need no separator:
whatever follows, each is read as what it stands for (`Writes.reads`), although a form may end in
digits and the next begin with one, and a character of the upper planes may be written as two
halves, which are joined only in the end. So the value of the literal is the text
(`literalValue_of_body`).
-/

namespace PropOrder.Text
variable {c n : ℕ} {body digits rest t w : Text}

/-! ### Spellings -/

/-- The digits of base sixteen with their values, the letters in either case. -/
def hexTable : List (Char × ℕ) :=
  "0123456789abcdef".toList.zipIdx ++ "0123456789ABCDEF".toList.zipIdx

/-- A text spells a number in base sixteen, the most significant digit first; zeros may stand in
front. -/
def Hexadecimal (digits : Text) (n : ℕ) : Prop :=
  ∃ spelled : List (Char × ℕ), (∀ d ∈ spelled, d ∈ hexTable) ∧
    digits = spelled.map (code ·.1) ∧ n = Nat.ofDigits 16 (spelled.map (·.2)).reverse

/-- The letters that stand for other characters behind a backslash. -/
def letterEscapes : List (Char × Char) :=
  [('n', '\n'), ('t', '\t'), ('r', '\r'), ('b', '\x08'), ('f', '\x0c'), ('v', '\x0b'),
    ('0', '\x00')]

/-- The characters that do not stand for themselves behind a backslash: those that open an escape
and the line breaks. -/
def notVerbatim : List Char :=
  ['u', 'x', 'n', 't', 'r', 'b', 'f', 'v', '0', '\n', '\r', '\u2028', '\u2029']

/-- The ways to write a character in the body of a quoted literal. -/
inductive Writes : Text → Char → Prop where
  /-- As it is. -/
  | plain {c : Char} (h : c ≠ '\\') : Writes [code c] c
  /-- Behind a backslash. -/
  | verbatim {c : Char} (h : c ∉ notVerbatim) : Writes [code '\\', code c] c
  /-- By a letter behind a backslash. -/
  | letter {l c : Char} (h : (l, c) ∈ letterEscapes) : Writes [code '\\', code l] c
  /-- By two digits. -/
  | two {c : Char} {digits : Text} (length : digits.length = 2)
      (h : Hexadecimal digits (code c)) : Writes (code '\\' :: code 'x' :: digits) c
  /-- By four digits. -/
  | four {c : Char} {digits : Text} (length : digits.length = 4)
      (h : Hexadecimal digits (code c)) : Writes (code '\\' :: code 'u' :: digits) c
  /-- By digits between braces, at least one. -/
  | braced {c : Char} {digits : Text} (nonempty : digits ≠ []) (h : Hexadecimal digits (code c)) :
      Writes (code '\\' :: code 'u' :: code '{' :: (digits ++ [code '}'])) c
  /-- By its two halves, if it is of the upper planes, with four digits each. -/
  | halves {c : Char} {high low : ℕ} {highDigits lowDigits : Text}
      (units : unitsOf (code c) = [high, low])
      (highLength : highDigits.length = 4) (hhigh : Hexadecimal highDigits high)
      (lowLength : lowDigits.length = 4) (hlow : Hexadecimal lowDigits low) :
      Writes (code '\\' :: code 'u' :: highDigits ++ code '\\' :: code 'u' :: lowDigits) c

/-- The escaped line breaks. -/
def continuations : List Text :=
  [['\\', '\n'], ['\\', '\r', '\n'], ['\\', '\u2028'], ['\\', '\u2029']].map (List.map code)

/-- A body spells a text: each character is written in some way, and escaped line breaks may stand
anywhere between. -/
inductive Body : Text → List Char → Prop where
  | nil : Body [] []
  | char {w body : Text} {c : Char} {s : List Char} (h : Writes w c) (rest : Body body s) :
      Body (w ++ body) (c :: s)
  | continuation {w body : Text} {s : List Char} (h : w ∈ continuations) (rest : Body body s) :
      Body (w ++ body) s

/-! ### Digits -/

theorem asciiDigit?_of_mem_hexTable :
    ∀ d ∈ hexTable, asciiDigit? (code d.1) = some d.2 ∧ d.2 < 16 := by
  decide

theorem Hexadecimal.isHexDigit (h : Hexadecimal digits n) : ∀ c ∈ digits, isHexDigit c = true := by
  obtain ⟨spelled, listed, rfl, -⟩ := h
  intro c hc
  obtain ⟨d, hd, rfl⟩ := List.mem_map.1 hc
  have value := asciiDigit?_of_mem_hexTable d (listed d hd)
  simp [Text.isHexDigit, value.1, value.2]

theorem digitsValue_eq_ofDigits (base : ℕ) (digits : List ℕ) :
    digitsValue base digits = Nat.ofDigits base digits.reverse := by
  rw [digitsValue, Nat.ofDigits_eq_foldr, List.foldr_reverse]
  congr 1
  funext value digit
  simp
  ring

theorem Hexadecimal.hexValue_eq (h : Hexadecimal digits n) : hexValue digits = n := by
  obtain ⟨spelled, listed, rfl, rfl⟩ := h
  have values : (spelled.map (code ·.1)).filterMap asciiDigit? = spelled.map (·.2) := by
    rw [List.filterMap_map, ← List.filterMap_eq_map]
    exact List.filterMap_congr fun d hd => (asciiDigit?_of_mem_hexTable d (listed d hd)).1
  rw [hexValue, values, digitsValue_eq_ofDigits]

/-! ### Escapes -/

theorem hexPair?_append (hex : ∀ c ∈ digits, isHexDigit c = true) (rest : Text) :
    hexPair? digits.length (digits ++ rest) = some (hexValue digits) := by
  simp [hexPair?, List.all_eq_true.2 hex]

theorem braced?_append (nonempty : digits ≠ []) (hex : ∀ c ∈ digits, isHexDigit c = true)
    (rest : Text) : braced? (code '{' :: (digits ++ code '}' :: rest)) =
      some (hexValue digits, digits.length + 2) := by
  have scanned : (digits ++ code '}' :: rest).takeWhile isHexDigit = digits := by
    have stop : ¬isHexDigit (code '}') = true := by decide
    rw [List.takeWhile_append_of_pos hex, List.takeWhile_cons_of_neg stop, List.append_nil]
  have opening : code '{' = 0x7B := rfl
  have closing : code '}' = 0x7D := rfl
  rw [closing] at scanned ⊢
  rw [opening, braced?]
  simp [scanned, nonempty]

/-- What begins with a digit does not begin with a brace. -/
theorem braced?_of_isHexDigit (h : isHexDigit c = true) (rest : Text) :
    braced? (c :: rest) = none := by
  unfold braced?
  split
  · next heq =>
    obtain ⟨rfl, -⟩ := List.cons.inj heq
    exact absurd h (by decide)
  · rfl

theorem escapeAt_two (length : digits.length = 2) (h : Hexadecimal digits n) (rest : Text) :
    escapeAt (code 'x') (digits ++ rest) = (.numeric n, digits.length) := by
  have value := hexPair?_append h.isHexDigit rest
  rw [length, h.hexValue_eq] at value
  have x : code 'x' ≠ code 'u' := by decide
  simp [escapeAt, x, value, length]

theorem escapeAt_four (length : digits.length = 4) (h : Hexadecimal digits n) (rest : Text) :
    escapeAt (code 'u') (digits ++ rest) = (.numeric n, digits.length) := by
  have value := hexPair?_append h.isHexDigit rest
  rw [length, h.hexValue_eq] at value
  obtain ⟨first, others, rfl⟩ := List.exists_cons_of_length_eq_add_one length
  have clear := braced?_of_isHexDigit (h.isHexDigit first (List.mem_cons_self ..)) (others ++ rest)
  rw [List.cons_append] at value ⊢
  simp [escapeAt, value, clear, length]

theorem escapeAt_braced (nonempty : digits ≠ []) (h : Hexadecimal digits n) (rest : Text) :
    escapeAt (code 'u') (code '{' :: (digits ++ [code '}']) ++ rest) =
      (.numeric n, (code '{' :: (digits ++ [code '}'])).length) := by
  have value := braced?_append nonempty h.isHexDigit rest
  rw [h.hexValue_eq] at value
  simp [escapeAt, value]

/-- A character that is not one of those stands for itself behind a backslash. -/
theorem escapeAt_verbatim {c : Char} (h : c ∉ notVerbatim) (rest : Text) :
    escapeAt (code c) rest = (.single (code c), 0) := by
  have other (d : Char) (hd : d ∈ notVerbatim) : code c ≠ code d := by
    intro same
    exact h (Char.toNat_inj.1 same ▸ hd)
  have lineEnd : isLineEnd (code c) = false := by
    simp only [isLineEnd, Bool.or_eq_false_iff, beq_eq_false_iff_ne]
    exact ⟨⟨⟨other '\n' (by decide), other '\r' (by decide)⟩, other '\u2028' (by decide)⟩,
      other '\u2029' (by decide)⟩
  have short : shortEscape (code c) = code c := by
    rw [shortEscape, if_neg (other 'n' (by decide)), if_neg (other 't' (by decide)),
      if_neg (other 'r' (by decide)), if_neg (other 'b' (by decide)),
      if_neg (other 'f' (by decide)), if_neg (other 'v' (by decide)), if_neg (other '0' (by decide))]
  have cr : code c ≠ 0x0D := other '\r' (by decide)
  rw [escapeAt, if_neg (other 'u' (by decide)), if_neg (other 'x' (by decide)),
    if_neg fun h => cr h.1, singleEscape, lineEnd, short]
  rfl

theorem escapeAt_letter {l c : Char} (h : (l, c) ∈ letterEscapes) (rest : Text) :
    escapeAt (code l) rest = (.single (code c), 0) := by
  simp only [letterEscapes, List.mem_cons, Prod.mk.injEq, List.not_mem_nil, or_false] at h
  rcases h with ⟨rfl, rfl⟩ | ⟨rfl, rfl⟩ | ⟨rfl, rfl⟩ | ⟨rfl, rfl⟩ | ⟨rfl, rfl⟩ | ⟨rfl, rfl⟩ |
    ⟨rfl, rfl⟩ <;> rfl

/-! ### Scanning -/

/-- Passing over the first code points is dropping them. -/
theorem scanFrom_eq (skip : ℕ) (t : Text) : scanFrom skip t = scan (t.drop skip) := by
  induction t generalizing skip with
  | nil => cases skip <;> rfl
  | cons c t ih =>
    cases skip with
    | zero => rfl
    | succ skip => exact ih skip

theorem scan_plain (h : c ≠ code '\\') (rest : Text) :
    scan (c :: rest) = .single c :: scan rest := by
  show scanFrom 0 (c :: rest) = _
  rw [scanFrom.eq_def]
  exact if_neg h

/-- An escape is one piece, and what it takes is not looked at again. -/
theorem scan_escape {piece : Piece} (h : escapeAt c (w ++ rest) = (piece, w.length)) :
    scan (code '\\' :: c :: (w ++ rest)) = piece :: scan rest := by
  show scanFrom 0 (code '\\' :: c :: (w ++ rest)) = _
  rw [scanFrom, if_pos rfl]
  dsimp only
  rw [h, scanFrom_eq, List.drop_succ_cons, List.drop_left]

/-- A written form is read as a text, whatever follows it. -/
def Reads (w t : Text) : Prop :=
  ∀ rest, unescape (w ++ rest) = do
    let more ← unescape rest
    return t ++ more

theorem reads_of_scan {piece : Piece} (h : ∀ rest, scan (w ++ rest) = piece :: scan rest)
    (value : piece.value = .ok t) : Reads w t := by
  intro rest
  rw [unescape, h, mapM_flatten_cons, value]
  rfl

theorem Reads.append {w' t' : Text} (h : Reads w t) (h' : Reads w' t') :
    Reads (w ++ w') (t ++ t') := by
  intro rest
  rw [List.append_assoc, h, h']
  cases unescape rest with
  | error fault => rfl
  | ok more => exact congrArg Except.ok (List.append_assoc t t' more).symm

theorem reads_numeric {mark : ℕ} (taken : ∀ rest, escapeAt mark (digits ++ rest) =
    (.numeric n, digits.length)) (scalar : n < 0x110000) :
    Reads (code '\\' :: mark :: digits) [n] := by
  refine reads_of_scan (fun rest => scan_escape (taken rest)) ?_
  rw [Piece.value, if_pos scalar]

theorem reads_single {mark : ℕ} (taken : ∀ rest, escapeAt mark rest = (.single c, 0)) :
    Reads [code '\\', mark] [c] :=
  reads_of_scan (fun rest => scan_escape (w := []) (taken rest)) rfl

theorem reads_continuation (h : w ∈ continuations) : Reads w [] := by
  simp only [continuations, List.map_cons, List.map_nil, List.mem_cons, List.not_mem_nil,
    or_false] at h
  rcases h with rfl | rfl | rfl | rfl
  · exact reads_of_scan (fun rest => scan_escape (w := []) rfl) rfl
  · exact reads_of_scan (fun rest => scan_escape (w := [0x0A]) rfl) rfl
  · exact reads_of_scan (fun rest => scan_escape (w := []) rfl) rfl
  · exact reads_of_scan (fun rest => scan_escape (w := []) rfl) rfl

/-! ### Characters -/

theorem code_lt (c : Char) : code c < 0x110000 := by
  have valid : code c < 0xD800 ∨ 0xDFFF < code c ∧ code c < 0x110000 := c.valid
  omega

theorem isHighHalf_code (c : Char) : isHighHalf (code c) = false := by
  have valid : code c < 0xD800 ∨ 0xDFFF < code c ∧ code c < 0x110000 := c.valid
  simp only [isHighHalf, Bool.and_eq_false_iff, decide_eq_false_iff_not]
  omega

theorem merge_code_cons (c : Char) (more : Text) :
    merge (code c :: more) = code c :: merge more := by
  cases more with
  | nil => rfl
  | cons d more => rw [merge, isHighHalf_code, Bool.false_and, if_neg Bool.false_ne_true]

theorem joinHalves_add (a b : ℕ) :
    joinHalves (0xD800 + a) (0xDC00 + b) = 0x10000 + a * 0x400 + b := by
  unfold joinHalves
  omega

/-- The two units of a code point are halves, which join to it. -/
theorem halves_of_units {high low : ℕ} (scalar : c < 0x110000) (units : unitsOf c = [high, low]) :
    isHighHalf high = true ∧ isLowHalf low = true ∧ joinHalves high low = c := by
  unfold unitsOf at units
  split at units
  · cases units
  · obtain ⟨rfl, rfl⟩ : 0xD800 + (c - 0x10000) / 0x400 = high ∧
        0xDC00 + (c - 0x10000) % 0x400 = low := by simpa using units
    rw [joinHalves_add]
    simp only [isHighHalf, isLowHalf, Bool.and_eq_true, decide_eq_true_eq]
    omega

theorem merge_halves {high low : ℕ} (hh : isHighHalf high = true) (hl : isLowHalf low = true)
    (more : Text) : merge (high :: low :: more) = joinHalves high low :: merge more := by
  rw [merge, hh, hl, Bool.true_and, if_pos rfl]

/-- A character is read in every way to write it, whatever follows: as itself, or as two halves that
are joined to it. -/
theorem Writes.reads {c : Char} (h : Writes w c) :
    ∃ t, Reads w t ∧ ∀ more, merge (t ++ more) = code c :: merge more := by
  cases h with
  | plain h =>
    have other : code c ≠ code '\\' := fun same => h (Char.toNat_inj.1 same)
    exact ⟨[code c], reads_of_scan (scan_plain other) rfl, merge_code_cons c⟩
  | verbatim h => exact ⟨[code c], reads_single (escapeAt_verbatim h), merge_code_cons c⟩
  | letter h => exact ⟨[code c], reads_single (escapeAt_letter h), merge_code_cons c⟩
  | two length h =>
    exact ⟨[code c], reads_numeric (escapeAt_two length h) (code_lt c), merge_code_cons c⟩
  | four length h =>
    exact ⟨[code c], reads_numeric (escapeAt_four length h) (code_lt c), merge_code_cons c⟩
  | braced nonempty h =>
    exact ⟨[code c], reads_numeric (escapeAt_braced nonempty h) (code_lt c), merge_code_cons c⟩
  | @halves _ high low highDigits lowDigits units highLength hhigh lowLength hlow =>
    obtain ⟨hh, hl, joined⟩ := halves_of_units (code_lt c) units
    have highScalar : high < 0x110000 := by
      simp only [isHighHalf, Bool.and_eq_true, decide_eq_true_eq] at hh
      omega
    have lowScalar : low < 0x110000 := by
      simp only [isLowHalf, Bool.and_eq_true, decide_eq_true_eq] at hl
      omega
    refine ⟨[high] ++ [low], ?_, fun more => ?_⟩
    · exact (reads_numeric (escapeAt_four highLength hhigh) highScalar).append
        (reads_numeric (escapeAt_four lowLength hlow) lowScalar)
    · rw [← joined]
      exact merge_halves hh hl more

/-! ### Bodies -/

/-- A body is read as a text that becomes the text it spells when halves are joined. -/
theorem Body.unescape_eq {s : List Char} (h : Body body s) :
    ∃ t, unescape body = .ok t ∧ merge t = s.map code := by
  induction h with
  | nil => exact ⟨[], rfl, rfl⟩
  | char h _ ih =>
    obtain ⟨t, ht, joined⟩ := h.reads
    obtain ⟨more, hmore, spelled⟩ := ih
    refine ⟨t ++ more, ?_, ?_⟩
    · rw [ht, hmore]
      rfl
    · rw [joined, spelled]
      rfl
  | continuation h _ ih =>
    obtain ⟨more, hmore, spelled⟩ := ih
    refine ⟨more, ?_, spelled⟩
    rw [reads_continuation h, hmore]
    rfl

/-- **The value of a quoted literal is the text that its body spells, in whichever way each
character is written, and whatever the two quotes are.** -/
theorem literalValue_of_body {s : List Char} (h : Body body s) (q₁ q₂ : ℕ) :
    literalValue (q₁ :: body ++ [q₂]) = .ok (s.map code) := by
  obtain ⟨t, ht, joined⟩ := h.unescape_eq
  have inside : withoutEnds (q₁ :: body ++ [q₂]) = body := List.dropLast_concat
  rw [literalValue, inside, ht, ok_bind, joined]
  rfl

/-- A body in which each form might run into the next. -/
def mixedBody : Text := ofString "\\u\x7b00fEFf\x7d\\x411\\\\\\\r\nu\\uD83D\\ude00\\n"

/-- A mark of byte order, a digit behind two digits, a backslash before a line break and a `u`, two
halves, and a line feed. -/
theorem literalValue_mixedBody :
    Body mixedBody ['\ufeff', 'A', '1', '\\', 'u', '😀', '\n'] ∧
      literalValue (code '"' :: mixedBody ++ [code '"']) =
        .ok (['\ufeff', 'A', '1', '\\', 'u', '😀', '\n'].map code) := by
  have mark : Writes (ofString "\\u\x7b00fEFf\x7d") '\ufeff' :=
    .braced (c := '\ufeff') (show ofString "00fEFf" ≠ [] by decide)
      ⟨[('0', 0), ('0', 0), ('f', 15), ('E', 14), ('F', 15), ('f', 15)], by decide, rfl, rfl⟩
  have a : Writes (ofString "\\x41") 'A' :=
    .two (c := 'A') (show (ofString "41").length = 2 from rfl)
      ⟨[('4', 4), ('1', 1)], by decide, rfl, rfl⟩
  have face : Writes (ofString "\\uD83D\\ude00") '😀' :=
    .halves (c := '😀') (show unitsOf (code '😀') = [0xD83D, 0xDE00] from rfl)
      (show (ofString "D83D").length = 4 from rfl)
      ⟨[('D', 13), ('8', 8), ('3', 3), ('D', 13)], by decide, rfl, rfl⟩
      (show (ofString "de00").length = 4 from rfl)
      ⟨[('d', 13), ('e', 14), ('0', 0), ('0', 0)], by decide, rfl, rfl⟩
  have spelled : Body mixedBody ['\ufeff', 'A', '1', '\\', 'u', '😀', '\n'] :=
    Body.char mark <| Body.char a <| Body.char (.plain (c := '1') (by decide)) <|
      Body.char (.verbatim (c := '\\') (by decide)) <|
      Body.continuation (show ofString "\\\r\n" ∈ continuations by decide) <|
      Body.char (.plain (c := 'u') (by decide)) <| Body.char face <|
      Body.char (.letter (show ('n', '\n') ∈ letterEscapes by decide)) Body.nil
  exact ⟨spelled, literalValue_of_body spelled _ _⟩

end PropOrder.Text
