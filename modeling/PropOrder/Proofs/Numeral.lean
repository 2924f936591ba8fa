import PropOrder.Conversion
import PropOrder.Proofs.Text.Spelling

/-!
# Spellings of a number

A natural number is written in base sixteen, eight or two behind a marker, with any number of zeros
in front, or in base ten without them (`Writes`). The forms do not run into each other: a marker is
read before any digit, and a decimal whose second character is looked at for a marker has a digit
there, so that the letters among the digits of base sixteen are neither markers nor the beginning of
an exponent (`integer?_of_writes`). Underscores are dropped before anything is read. So a number
literal has the number that it writes as its value, and a literal that writes none is kept with some
other value: no number literal fails to be converted (`convert_number`).
-/

namespace PropOrder

namespace Numeral
open Text (code asciiDigit? hexTable)
variable {base n : ℕ} {digits t : Text}

/-! ### Written forms -/

/-- A text of digits spells a number in a base up to sixteen, the most significant digit first and
the letters in either case; zeros may stand in front. -/
def SpelledIn (base : ℕ) (digits : Text) (n : ℕ) : Prop :=
  ∃ spelled : List (Char × ℕ), (∀ d ∈ spelled, d ∈ hexTable ∧ d.2 < base) ∧
    digits = spelled.map (code ·.1) ∧ n = Nat.ofDigits base (spelled.map (·.2)).reverse

/-- The letters that mark a base. -/
def markers : List (Char × ℕ) :=
  [('x', 16), ('X', 16), ('o', 8), ('O', 8), ('b', 2), ('B', 2)]

/-- The ways to write a natural number. -/
inductive Writes (n : ℕ) : Text → Prop
  /-- In a marked base, with any number of zeros in front. -/
  | marked {marker : Char} {base : ℕ} {digits : Text} (marks : (marker, base) ∈ markers)
    (nonempty : digits ≠ []) (spelled : SpelledIn base digits n) :
    Writes n (code '0' :: code marker :: digits)
  /-- In base ten, with no zero in front of other digits. -/
  | decimal {digits : Text} (nonempty : digits ≠ []) (spelled : SpelledIn 10 digits n)
    (bare : digits.head? = some (code '0') → digits.length = 1) (short : digits.length ≤ 4300) :
    Writes n digits

/-! ### Digits -/

theorem asciiDigit?_filter {d : Char × ℕ} (listed : d ∈ hexTable) (small : d.2 < base) :
    (asciiDigit? (code d.1)).filter (· < base) = some d.2 := by
  rw [(Text.asciiDigit?_of_mem_hexTable d listed).1]
  exact Option.filter_eq_some_iff.2 ⟨rfl, decide_eq_true small⟩

theorem wholeDigits?_of_spelledIn (nonempty : digits ≠ []) (h : SpelledIn base digits n) :
    wholeDigits? base digits = some n := by
  obtain ⟨spelled, listed, rfl, rfl⟩ := h
  have values : (spelled.map (code ·.1)).mapM (fun c => (asciiDigit? c).filter (· < base)) =
      some (spelled.map (·.2)) := by
    clear nonempty
    induction spelled with
    | nil => rfl
    | cons d spelled ih =>
      obtain ⟨first, rest⟩ := List.forall_mem_cons.1 listed
      rw [List.map_cons, List.mapM_cons, asciiDigit?_filter first.1 first.2, ih rest]
      rfl
  rw [wholeDigits?, if_neg (by simpa using nonempty), values, ← Text.digitsValue_eq_ofDigits]
  rfl

/-- Digits and letters of the ASCII range. -/
def Plain (t : Text) : Prop := ∀ c ∈ t, code '0' ≤ c ∧ c < 0x7F

theorem SpelledIn.plain (h : SpelledIn base digits n) : Plain digits := by
  obtain ⟨spelled, listed, rfl, -⟩ := h
  intro c hc
  obtain ⟨d, hd, rfl⟩ := List.mem_map.1 hc
  have table : ∀ d ∈ hexTable, code '0' ≤ code d.1 ∧ code d.1 < 0x7F := by decide
  exact table d (listed d hd).1

/-! ### What stands around the digits -/

theorem dropWhile_isEdgeBlank (h : Plain t) : t.dropWhile isEdgeBlank = t := by
  cases t with
  | nil => rfl
  | cons c rest =>
    have digit : 0x30 ≤ c := (h c (List.mem_cons_self ..)).1
    refine List.dropWhile_cons_of_neg ?_
    simp only [isEdgeBlank, Bool.or_eq_true, beq_iff_eq, Bool.and_eq_true, decide_eq_true_eq]
    omega

theorem normalize_eq_self (h : Plain t) : normalize t = t := by
  have ascii : t.map toAscii = t := by
    refine (List.map_congr_left fun c hc => ?_).trans (List.map_id t)
    exact if_pos (h c hc).2
  have reversed : Plain t.reverse := fun c hc => h c (List.mem_reverse.1 hc)
  rw [normalize, ascii, dropWhile_isEdgeBlank h, dropWhile_isEdgeBlank reversed,
    List.reverse_reverse]

theorem splitSign_eq (h : Plain t) : splitSign t = (false, t) := by
  cases t with
  | nil => rfl
  | cons c rest =>
    have digit : 0x30 ≤ c := (h c (List.mem_cons_self ..)).1
    have minus : c ≠ code '-' := by
      rintro rfl
      exact absurd digit (by decide)
    have plus : c ≠ code '+' := by
      rintro rfl
      exact absurd digit (by decide)
    rw [splitSign, if_neg minus, if_neg plus]

/-! ### Reading what is written -/

theorem Writes.plain (h : Writes n t) : Plain t := by
  cases h with
  | decimal nonempty spelled => exact spelled.plain
  | @marked marker base digits marks nonempty spelled =>
    have letters : ∀ m ∈ markers, code '0' ≤ code m.1 ∧ code m.1 < 0x7F := by decide
    exact List.forall_mem_cons.2 ⟨by decide, List.forall_mem_cons.2
      ⟨letters (marker, base) marks, spelled.plain⟩⟩

theorem decimal?_of_spelledIn (nonempty : digits ≠ []) (spelled : SpelledIn 10 digits n)
    (bare : digits.head? = some (code '0') → digits.length = 1)
    (short : digits.length ≤ maxDigits) : decimal? digits = some n := by
  have whole := wholeDigits?_of_spelledIn nonempty spelled
  have zero : ¬ (digits.head? = some (code '0') ∧ n ≠ 0) := by
    rintro ⟨first, ne⟩
    obtain ⟨c, rfl⟩ := List.length_eq_one_iff.1 (bare first)
    obtain rfl : c = code '0' := Option.some.inj first
    exact ne (Option.some.inj (whole.symm.trans rfl))
  rw [decimal?, whole]
  exact (if_neg (by omega)).trans (if_neg zero)

/-- A written form is read as the number, without a sign. -/
theorem natural?_of_writes (h : Writes n t) : natural? t = some n := by
  cases h with
  | @marked marker base digits marks nonempty spelled =>
    have bases : ∀ m ∈ markers, markedBase? (code m.1) = some m.2 := by decide
    rw [natural?, if_pos rfl, bases (marker, base) marks]
    exact wholeDigits?_of_spelledIn nonempty spelled
  | decimal nonempty spelled bare short =>
    have value := decimal?_of_spelledIn nonempty spelled bare short
    -- a zero in front of a second character would ask for a marker, but it stands alone
    match t, bare with
    | [], _ => exact value
    | [c], _ => exact value
    | c :: d :: rest, bare =>
      have first : c ≠ code '0' := by
        rintro rfl
        exact absurd (bare rfl) (by simp)
      rw [natural?, if_neg first]
      exact value

theorem integer?_of_writes (h : Writes n t) : integer? t = some (n : ℤ) := by
  rw [integer?, normalize_eq_self h.plain, splitSign_eq h.plain]
  show (natural? t).map (signed false) = _
  rw [natural?_of_writes h]
  rfl

end Numeral

namespace Conversion
open Text (code)

theorem numberValue_of_writes {n : ℕ} {raw : Text}
    (h : Numeral.Writes n (raw.filter (· != code '_'))) : numberValue raw = .int n := by
  rw [numberValue, Numeral.readSpaced?, Numeral.read?, Numeral.integer?_of_writes h]

/-- **A number literal is always converted, to a literal that keeps its spelling. If its text writes
a natural number, with underscores put in at any places, its value is that number.** -/
theorem convert_number {source : SourceText} {tree : Concrete} (number : tree.kind = "number") :
    ∃ value : Scalar,
      convert source tree = .ok (.mk ⟨"Literal", tree.span, some (source.location tree.span)⟩
        [("value", .one (.scalar value)), ("raw", .text (source.text tree.span))]) ∧
      ∀ n : ℕ, Numeral.Writes n ((source.text tree.span).filter (· != code '_')) →
        value = .int n := by
  refine ⟨numberValue (source.text tree.span), ?_, fun n writes => numberValue_of_writes writes⟩
  rw [convert_eq, number]
  rfl

/-- The source `_0X_0e1b_`. -/
def markedSource : SourceText := .ofString "_0X_0e1b_"

/-- The concrete tree of the number of `markedSource`. -/
def markedTree : Concrete := .mk ⟨true, "number", "", ⟨0, 9⟩⟩ []

/-- The digits `e`, `1` and `b` behind a marker are digits of base sixteen. -/
theorem convert_markedSource : markedTree.kind = "number" ∧
    Numeral.Writes 0xe1b ((markedSource.text markedTree.span).filter (· != code '_')) ∧
    convert markedSource markedTree = .ok (.mk ⟨"Literal", ⟨0, 9⟩, some ⟨⟨0, 0⟩, ⟨0, 9⟩⟩⟩
      [("value", .one (.scalar (.int 0xe1b))), ("raw", .string "_0X_0e1b_")]) := by
  have spelled : Numeral.SpelledIn 16 (.ofString "0e1b") 0xe1b :=
    ⟨[('0', 0), ('e', 14), ('1', 1), ('b', 11)], by decide, rfl, rfl⟩
  have marks : ('X', 16) ∈ Numeral.markers := by decide
  have writes : Numeral.Writes 0xe1b
      ((markedSource.text markedTree.span).filter (· != code '_')) :=
    .marked marks (by decide) spelled
  obtain ⟨value, converted, read⟩ := @convert_number markedSource markedTree rfl
  obtain rfl := read 0xe1b writes
  exact ⟨rfl, writes, converted⟩

end Conversion

end PropOrder
