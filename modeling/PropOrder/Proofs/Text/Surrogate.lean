import PropOrder.Proofs.Text.Escape

/-!
# Joined halves

Joining halves changes no 16-bit unit (`units16_merge`) and leaves no high half in front of a low
one (`isChain_merge`). A text is known from its units as far as it can be: what joining makes of the
units is what it makes of the text (`merge_units16`), and it leaves a text without such pairs alone
(`merge_eq_self`), so that a text without such pairs is known from its units
(`eq_merge_of_units16_eq`). The value of a quoted literal is the one text of this sort with the units
of what the chunks of its body stand for (`literalValue_canonical`).
-/

namespace PropOrder.Text
variable {a b c high low : ℕ} {body raw rest t u : Text} {chunks : List Chunk} {piece : Piece}

/-- A high half and a low half. -/
def IsPair (a b : ℕ) : Prop := isHighHalf a = true ∧ isLowHalf b = true

theorem isPair_iff : IsPair a b ↔ (0xD800 ≤ a ∧ a ≤ 0xDBFF) ∧ 0xDC00 ≤ b ∧ b ≤ 0xDFFF := by
  simp only [IsPair, isHighHalf, isLowHalf, Bool.and_eq_true, decide_eq_true_eq]

/-! ### Units -/

theorem units16_cons (c : ℕ) (t : Text) : units16 (c :: t) = unitsOf c ++ units16 t :=
  List.flatMap_cons

theorem unitsOf_of_lt (h : c < 0x10000) : unitsOf c = [c] := if_pos h

/-- A code point of the upper planes has two units, which are halves. -/
theorem exists_halves (upper : 0x10000 ≤ c) (scalar : c < 0x110000) :
    ∃ high low, unitsOf c = [high, low] ∧ IsPair high low ∧ joinHalves high low = c := by
  have units : unitsOf c = _ := if_neg (Nat.not_lt.2 upper)
  obtain ⟨hh, hl, joined⟩ := halves_of_units scalar units
  exact ⟨_, _, units, ⟨hh, hl⟩, joined⟩

/-- The units of what two halves are joined to are the halves. -/
theorem unitsOf_joinHalves (pair : IsPair high low) :
    unitsOf (joinHalves high low) = [high, low] := by
  have bounds := isPair_iff.1 pair
  have upper : 0x10000 ≤ joinHalves high low := by
    unfold joinHalves
    omega
  obtain ⟨h, l, units, pair', joined⟩ := exists_halves upper (by unfold joinHalves; omega)
  have bounds' := isPair_iff.1 pair'
  unfold joinHalves at joined
  rw [units, show h = high by omega, show l = low by omega]

/-! ### Joining -/

theorem merge_pair (pair : IsPair high low) (rest : Text) :
    merge (high :: low :: rest) = joinHalves high low :: merge rest :=
  merge_halves pair.1 pair.2 rest

/-- What makes no pair with what follows is left alone. -/
theorem merge_cons (apart : ∀ b ∈ t.head?, ¬IsPair a b) : merge (a :: t) = a :: merge t := by
  cases t with
  | nil => rfl
  | cons b t =>
    have free : ¬(isHighHalf a && isLowHalf b) = true := by
      rw [Bool.and_eq_true]
      exact apart b rfl
    rw [merge, if_neg free]

/-- What is true of a text if it is true behind a pair, and behind what makes no pair with what
follows, is true of every text. -/
@[elab_as_elim]
theorem pairInduction {P : Text → Prop} (t : Text) (nil : P [])
    (pair : ∀ high low rest, IsPair high low → P rest → P (high :: low :: rest))
    (cons : ∀ a rest, (∀ b ∈ rest.head?, ¬IsPair a b) → P rest → P (a :: rest)) : P t := by
  fun_induction merge t with
  | case1 => exact nil
  | case2 c => exact cons c [] (by simp) nil
  | case3 high low rest found ih => exact pair high low rest (by simpa [IsPair] using found) ih
  | case4 high low rest found ih =>
    refine cons high (low :: rest) (fun b hb => ?_) ih
    obtain rfl := Option.some.inj hb
    simpa [IsPair] using found

/-- Joining halves changes no unit. -/
theorem units16_merge (t : Text) : units16 (merge t) = units16 t := by
  induction t using pairInduction with
  | nil => rfl
  | pair high low rest pair ih =>
    have bounds := isPair_iff.1 pair
    rw [merge_pair pair, units16_cons, unitsOf_joinHalves pair, ih, units16_cons, units16_cons,
      unitsOf_of_lt (by omega), unitsOf_of_lt (by omega)]
    rfl
  | cons a rest apart ih => rw [merge_cons apart, units16_cons, ih, units16_cons]

/-- A text begins as before when its halves are joined, or with a code point of the upper planes. -/
theorem head?_merge (t : Text) :
    (merge t).head? = t.head? ∨ ∃ c ∈ (merge t).head?, 0x10000 ≤ c := by
  induction t using pairInduction with
  | nil => exact .inl rfl
  | pair high low rest pair _ =>
    refine .inr ⟨joinHalves high low, by rw [merge_pair pair]; rfl, ?_⟩
    unfold joinHalves
    omega
  | cons a rest apart _ => exact .inl (by rw [merge_cons apart]; rfl)

/-- When halves are joined, no high half is left in front of a low one. -/
theorem isChain_merge (t : Text) : (merge t).IsChain fun a b => ¬IsPair a b := by
  induction t using pairInduction with
  | nil => exact .nil
  | pair high low rest pair ih =>
    rw [merge_pair pair, List.isChain_cons]
    refine ⟨fun b _ joined => ?_, ih⟩
    have bounds := isPair_iff.1 joined
    unfold joinHalves at bounds
    omega
  | cons a rest apart ih =>
    rw [merge_cons apart, List.isChain_cons]
    refine ⟨fun b hb pair => ?_, ih⟩
    rcases head?_merge rest with same | ⟨c, hc, upper⟩
    · exact apart b (same ▸ hb) pair
    · obtain rfl := Option.some.inj (hc.symm.trans hb)
      have bounds := isPair_iff.1 pair
      omega

/-- A text in which no high half stands in front of a low one is left alone. -/
theorem merge_eq_self (h : t.IsChain fun a b => ¬IsPair a b) : merge t = t := by
  induction t with
  | nil => rfl
  | cons a t ih =>
    obtain ⟨apart, rest⟩ := List.isChain_cons.1 h
    rw [merge_cons apart, ih rest]

/-- The units of a text begin with what the text begins with, or with a high half. -/
theorem head?_units16 (scalar : ∀ c ∈ t, c < 0x110000) :
    ∀ b ∈ (units16 t).head?, b ∈ t.head? ∨ isHighHalf b = true := by
  cases t with
  | nil => simp [units16]
  | cons c t =>
    intro b hb
    rw [units16_cons] at hb
    by_cases lower : c < 0x10000
    · rw [unitsOf_of_lt lower] at hb
      exact .inl hb
    · obtain ⟨high, low, units, pair, -⟩ :=
        exists_halves (Nat.not_lt.1 lower) (scalar c (List.mem_cons_self ..))
      rw [units] at hb
      obtain rfl := Option.some.inj hb
      exact .inr pair.1

/-- Joining the units of a text is joining the text. -/
theorem merge_units16 (scalar : ∀ c ∈ t, c < 0x110000) : merge (units16 t) = merge t := by
  induction t using pairInduction with
  | nil => rfl
  | pair high low rest pair ih =>
    have bounds := isPair_iff.1 pair
    have later := ih fun c hc => scalar c (List.mem_cons_of_mem _ (List.mem_cons_of_mem _ hc))
    rw [units16_cons, units16_cons, unitsOf_of_lt (by omega), unitsOf_of_lt (by omega),
      merge_pair pair, ← later]
    exact merge_pair pair _
  | cons a rest apart ih =>
    have scalarRest := fun c hc => scalar c (List.mem_cons_of_mem _ hc)
    rw [merge_cons apart, units16_cons, ← ih scalarRest]
    by_cases lower : a < 0x10000
    · rw [unitsOf_of_lt lower]
      refine merge_cons fun b hb pair => ?_
      rcases head?_units16 scalarRest b hb with first | high
      · exact apart b first pair
      -- a high half is no low one
      · have bounds := isPair_iff.1 pair
        have := isPair_iff.1 (show IsPair b 0xDC00 from ⟨high, rfl⟩)
        omega
    · obtain ⟨high, low, units, pair, joined⟩ :=
        exists_halves (Nat.not_lt.1 lower) (scalar a (List.mem_cons_self ..))
      rw [units, List.cons_append, List.cons_append, List.nil_append, merge_pair pair, joined]

/-- A text in which no high half stands in front of a low one is known from its units: it is what
joining makes of any text with these units. -/
theorem eq_merge_of_units16_eq (hu : u.IsChain fun a b => ¬IsPair a b)
    (scalar : ∀ c ∈ u, c < 0x110000) (scalar' : ∀ c ∈ t, c < 0x110000)
    (same : units16 u = units16 t) : u = merge t :=
  calc u = merge (units16 u) := by rw [merge_units16 scalar, merge_eq_self hu]
    _ = merge t := by rw [same, merge_units16 scalar']

/-! ### Values of literals -/

/-- What a piece stands for, however large its number is. -/
def Piece.text : Piece → Text
  | single c => [c]
  | numeric v => [v]
  | continuation => []

theorem Piece.value_eq_ok (h : piece.value = .ok t) : t = piece.text := by
  cases piece with
  | single c => exact (Except.ok.inj h).symm
  | continuation => exact (Except.ok.inj h).symm
  | numeric v =>
    rw [Piece.value] at h
    split at h
    · exact (Except.ok.inj h).symm
    · cases h

/-- A body that is cut into chunks, with each escape replaced by what it stands for. -/
def unescaped (chunks : List Chunk) : Text := chunks.flatMap (·.piece.text)

theorem Scanned.unescape_eq_ok (h : Scanned body chunks) (value : unescape body = .ok t) :
    t = unescaped chunks := by
  rw [unescape, h.scan_eq, List.mapM_map] at value
  obtain ⟨texts, each, joined⟩ := bind_eq_ok_iff.1 value
  rw [← Except.ok.inj joined, eq_map_of_mapM (fun _ _ => Piece.value_eq_ok) each]
  exact (List.flatMap_def ..).symm

theorem shortEscape_lt (scalar : c < 0x110000) : shortEscape c < 0x110000 := by
  unfold shortEscape
  split_ifs
  all_goals first | decide | exact scalar

/-- A chunk stands for a code point of the body, or for one that an escape of one character names. -/
theorem Scanned.lt_of_single (h : Scanned body chunks) (scalar : ∀ c ∈ body, c < 0x110000) :
    ∀ chunk ∈ chunks, ∀ c, chunk.piece = .single c → c < 0x110000 := by
  induction h with
  | nil => nofun
  | plain _ _ ih =>
    obtain ⟨first, rest⟩ := List.forall_mem_cons.1 scalar
    refine List.forall_mem_cons.2 ⟨?_, ih rest⟩
    rintro _ ⟨⟩
    exact first
  | last =>
    refine List.forall_mem_singleton.2 ?_
    rintro _ ⟨⟩
    decide
  | @escape w body piece chunks h _ ih =>
    obtain ⟨here, rest⟩ := List.forall_mem_append.1 (List.forall_mem_cons.1 scalar).2
    refine List.forall_mem_cons.2 ⟨fun d single => ?_, ih rest⟩
    replace single : piece = .single d := single
    cases h with
    | long long =>
      subst single
      cases long
    | @short c _ =>
      rw [singleEscape] at single
      split at single
      · cases single
      · obtain rfl := Piece.single.inj single
        exact shortEscape_lt (here c (List.mem_singleton_self c))

/-- The code points of a body that has been read are in range if those of the literal are. -/
theorem lt_of_mem_unescaped (h : Scanned body chunks) (scalar : ∀ c ∈ body, c < 0x110000)
    (value : unescape body = .ok t) : ∀ c ∈ unescaped chunks, c < 0x110000 := by
  intro c hc
  obtain ⟨chunk, hchunk, hc⟩ := List.mem_flatMap.1 hc
  cases hp : chunk.piece with
  | single d =>
    rw [hp] at hc
    obtain rfl := List.mem_singleton.1 hc
    exact h.lt_of_single scalar chunk hchunk c hp
  | continuation =>
    rw [hp] at hc
    cases hc
  | numeric v =>
    rw [hp] at hc
    obtain rfl := List.mem_singleton.1 hc
    -- a number that is too large would have kept the body from being read
    have fits := h.unescape_eq_ok_iff.1 ⟨t, value⟩ chunk hchunk c
    by_contra large
    exact fits ((h.exceeds_iff chunk hchunk c).2 ⟨hp, by omega⟩)

/-- **The value of a quoted literal has the 16-bit units of its body with each escape replaced by
what it stands for, in the same order, and no high half stands in it in front of a low one. It is
the only text of this sort with these units.** -/
theorem literalValue_canonical (value : literalValue raw = .ok t) :
    ∃ chunks, (∀ cs, Scanned (withoutEnds raw) cs ↔ cs = chunks) ∧
      units16 t = units16 (unescaped chunks) ∧ (t.IsChain fun a b => ¬IsPair a b) ∧
      ((∀ c ∈ raw, c < 0x110000) → ∀ u : Text, (∀ c ∈ u, c < 0x110000) →
        (u.IsChain fun a b => ¬IsPair a b) → units16 u = units16 t → u = t) := by
  obtain ⟨chunks, only⟩ := exists_scanned_iff (withoutEnds raw)
  have scanned := (only chunks).2 rfl
  obtain ⟨body, read, joined⟩ := bind_eq_ok_iff.1 value
  obtain rfl := Except.ok.inj joined
  obtain rfl := scanned.unescape_eq_ok read
  refine ⟨chunks, only, units16_merge _, isChain_merge _, fun scalar u scalarU hu same => ?_⟩
  have inside : ∀ c ∈ withoutEnds raw, c < 0x110000 :=
    fun c hc => scalar c (List.mem_of_mem_tail (List.mem_of_mem_dropLast hc))
  rw [units16_merge] at same
  exact eq_merge_of_units16_eq hu scalarU (lt_of_mem_unescaped scanned inside read) same

/-- Halves in every order: two high ones in front of a low one, the second joined to it over a line
break, then a low one and a high one. -/
def mixedHalves : Text := ofString "'\\uD83D\\uD83D\\\n\\uDE00\\uDE00\\uD83D'"

theorem literalValue_mixedHalves :
    literalValue mixedHalves = .ok [0xD83D, 0x1F600, 0xDE00, 0xD83D] ∧
      ∃ chunks, (∀ cs, Scanned (withoutEnds mixedHalves) cs ↔ cs = chunks) ∧
        units16 (unescaped chunks) = [0xD83D, 0xD83D, 0xDE00, 0xDE00, 0xD83D] ∧
        ([0xD83D, 0x1F600, 0xDE00, 0xD83D].IsChain fun a b => ¬IsPair a b) ∧
        ∀ u : Text, (∀ c ∈ u, c < 0x110000) → (u.IsChain fun a b => ¬IsPair a b) →
          units16 u = [0xD83D, 0xD83D, 0xDE00, 0xDE00, 0xD83D] →
            u = [0xD83D, 0x1F600, 0xDE00, 0xD83D] := by
  have value : literalValue mixedHalves = .ok [0xD83D, 0x1F600, 0xDE00, 0xD83D] := by
    decide +kernel
  obtain ⟨chunks, only, units, apart, unique⟩ := literalValue_canonical value
  exact ⟨value, chunks, only, units.symm, apart, unique (by decide +kernel)⟩

end PropOrder.Text
