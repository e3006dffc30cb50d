import DetectionMerge.Proofs.Scores.Layout

/-! The reader of rows finds the reading that counts. Of a line with a reading it
finds one with as long a threshold, and with as long a numeral where the threshold
is the same; all other parts are given by the threshold. -/

namespace DetectionMerge.ScoreRow

open Text

variable {cs rest tail line area limit threshold : List Char} {value : SpelledNumber}
  {row other : ScoreRow}

/-! ### Thresholds -/

theorem ending?_of_threshold? {ending : List Char × List Char × SpelledNumber}
    (h : threshold? cs = some (threshold, ending)) :
    threshold ≠ [] ∧ (∀ c ∈ threshold, isBlank c = false) ∧
      ∃ tail, cs = threshold ++ tail ∧ ending? tail = some ending := by
  induction cs generalizing threshold with
  | nil => cases h
  | cons c cs ih =>
    simp only [threshold?] at h
    split_ifs at h with blank
    rw [Bool.not_eq_true] at blank
    cases longer : threshold? cs with
    | some found =>
      obtain ⟨threshold', ending'⟩ := found
      rw [longer] at h
      cases h
      obtain ⟨-, solid, tail, rfl, ends⟩ := ih longer
      exact ⟨List.cons_ne_nil _ _, List.forall_mem_cons.2 ⟨blank, solid⟩, tail, rfl, ends⟩
    | none =>
      simp only [longer, Option.map_eq_some_iff] at h
      obtain ⟨ending', ends, same⟩ := h
      cases same
      exact ⟨List.cons_ne_nil _ _, List.forall_mem_singleton.2 blank, cs, rfl, ends⟩

/-- A threshold that an ending follows is found, or a longer one. -/
theorem threshold?_longest {ending : List Char × List Char × SpelledNumber} (some : threshold ≠ [])
    (solid : ∀ c ∈ threshold, isBlank c = false) (ends : ending? tail = .some ending) :
    ∃ threshold' ending', threshold? (threshold ++ tail) = .some (threshold', ending') ∧
      (threshold = threshold' ∧ ending = ending' ∨ threshold.length < threshold'.length) := by
  induction threshold with
  | nil => exact absurd rfl some
  | cons c threshold ih =>
    obtain ⟨blank, solid⟩ := List.forall_mem_cons.1 solid
    simp only [List.cons_append, threshold?, blank, Bool.false_eq_true, if_false]
    by_cases single : threshold = []
    · subst single
      simp only [List.nil_append]
      cases longer : threshold? tail with
      | some found =>
        obtain ⟨threshold', ending'⟩ := found
        refine ⟨c :: threshold', ending', rfl, .inr ?_⟩
        have := List.length_pos_of_ne_nil (ending?_of_threshold? longer).1
        simp only [List.length_cons, List.length_nil]
        omega
      | none => exact ⟨[c], ending, by simp [ends], .inl ⟨rfl, rfl⟩⟩
    · obtain ⟨threshold', ending', found, same | longer⟩ := ih single solid
      · exact ⟨c :: threshold', ending', by simp [found], .inl ⟨by rw [same.1], same.2⟩⟩
      · exact ⟨c :: threshold', ending', by simp [found], .inr (Nat.succ_lt_succ longer)⟩

/-! ### Readings of a line -/

/-- A shorter reading: of the threshold, or of the numeral behind the same threshold. -/
def IsShorter (row other : ScoreRow) : Prop :=
  row.threshold.length < other.threshold.length ∨
    row.threshold = other.threshold ∧ row.value.text.length < other.value.text.length

/-- The parts behind a threshold are those that are read there, up to the length
of the numeral. -/
theorem Begins.reads (h : Begins line row) : ∃ tail value,
    head? line = some (row.kind, row.threshold ++ tail) ∧
      ending? tail = some (row.area, row.limit, value) ∧
      (row.value = value ∨ row.value.text.length < value.text.length) := by
  obtain ⟨formed, word, head, ending, rest, blankHead, blankEnding, rfl⟩ := h
  obtain ⟨value, number, longest⟩ := number?_longest formed.value rest
  refine ⟨spellEnding ending row.area row.limit ++ (row.value.text ++ rest), value,
    head?_eq_some_iff.2 ⟨word, head, blankHead, by simp [spell]⟩, ?_, longest⟩
  exact ending?_eq_some_iff.2 ⟨_, ⟨formed.area_ne_nil, formed.area, formed.limit_ne_nil,
    formed.limit, ending, blankEnding, rfl⟩, number⟩

/-- Given the threshold, all parts but the numeral are determined. -/
theorem Begins.parts_eq (h : Begins line row) (h' : Begins line other)
    (same : row.threshold = other.threshold) :
    row.kind = other.kind ∧ row.area = other.area ∧ row.limit = other.limit := by
  obtain ⟨tail, value, head, ends, -⟩ := h.reads
  obtain ⟨tail', value', head', ends', -⟩ := h'.reads
  rw [head', same, Option.some.injEq, Prod.mk.injEq, List.append_cancel_left_eq] at head
  obtain ⟨kind, rfl⟩ := head
  rw [ends, Option.some.injEq, Prod.mk.injEq, Prod.mk.injEq] at ends'
  exact ⟨kind.symm, ends'.1, ends'.2.1⟩

/-- The row that is read is a reading of the line. -/
theorem begins_of_ofLine? (h : ofLine? line = some row) : Begins line row := by
  rw [ofLine?_eq] at h
  obtain ⟨⟨kind, rest⟩, heads, h⟩ := Option.bind_eq_some_iff.1 h
  obtain ⟨⟨threshold, area, limit, value⟩, found, rfl⟩ := Option.map_eq_some_iff.1 h
  obtain ⟨word, head, blankHead, rfl⟩ := head?_eq_some_iff.1 heads
  obtain ⟨some, solid, tail, rfl, ends⟩ := ending?_of_threshold? found
  obtain ⟨_, ⟨someArea, areaInside, someLimit, limitInside, ending, blankEnding, rfl⟩, number⟩ :=
    ending?_eq_some_iff.1 ends
  obtain ⟨numeral, rest, rfl⟩ := isNumeral_of_number? number
  exact ⟨⟨some, solid, someArea, areaInside, someLimit, limitInside, numeral⟩, word, head, ending,
    rest, blankHead, blankEnding, by simp [spell]⟩

/-- Where a line has a reading, it or a longer one is read. -/
theorem Begins.exists_ofLine? (h : Begins line row) :
    ∃ found, ofLine? line = some found ∧ (row = found ∨ row.IsShorter found) := by
  obtain ⟨tail, value, head, ends, longest⟩ := h.reads
  obtain ⟨formed, -⟩ := h
  obtain ⟨threshold, ⟨area, limit, value'⟩, found, same⟩ :=
    threshold?_longest formed.threshold_ne_nil formed.threshold ends
  refine ⟨⟨row.kind, threshold, area, limit, value'⟩, by simp [ofLine?_eq, head, found], ?_⟩
  obtain ⟨rfl, parts⟩ | longer := same
  · cases parts
    obtain rfl | longer := longest
    · exact .inl rfl
    · exact .inr (.inr ⟨rfl, longer⟩)
  · exact .inr (.inl longer)

theorem Preferred.not_isShorter (h : Preferred line row) (h' : Begins line other) :
    ¬row.IsShorter other := by
  rintro (longer | ⟨same, longer⟩)
  · exact absurd longer (Nat.not_lt.2 (h.threshold_le other h'))
  · exact absurd longer (Nat.not_lt.2 (h.value_le other h' same.symm))

/-- The reader finds the reading that counts, and nothing if there is none. -/
theorem ofLine?_eq_some_iff : ofLine? line = some row ↔ Preferred line row := by
  constructor
  · intro h
    have atLeast (other : ScoreRow) (h' : Begins line other) :
        other = row ∨ other.IsShorter row := by
      obtain ⟨found, read, longest⟩ := h'.exists_ofLine?
      cases h.symm.trans read
      exact longest
    refine ⟨begins_of_ofLine? h, fun other h' => ?_, fun other h' same => ?_⟩
    · obtain rfl | longer | ⟨same, -⟩ := atLeast other h'
      · rfl
      · exact longer.le
      · rw [same]
    · obtain rfl | longer | ⟨-, longer⟩ := atLeast other h'
      · rfl
      · rw [same] at longer
        exact absurd longer (lt_irrefl _)
      · exact longer.le
  · intro h
    obtain ⟨found, read, rfl | shorter⟩ := h.begins.exists_ofLine?
    · exact read
    · exact absurd shorter (h.not_isShorter (begins_of_ofLine? read))

theorem Preferred.unique (h : Preferred line row) (h' : Preferred line other) : other = row :=
  Option.some.inj ((ofLine?_eq_some_iff.2 h').symm.trans (ofLine?_eq_some_iff.2 h))

theorem Begins.exists_preferred (h : Begins line row) : ∃ row', Preferred line row' := by
  obtain ⟨found, read, -⟩ := h.exists_ofLine?
  exact ⟨found, ofLine?_eq_some_iff.1 read⟩

end DetectionMerge.ScoreRow
