import DetectionMerge.Proofs.Number.Nearest
import DetectionMerge.Proofs.Scores.Reading
import DetectionMerge.Proofs.Traversal

/-! What a report says. Every line is read by itself: it gives the score of the
reading that counts if the numbers of this reading can be read, and nothing
otherwise, even if another reading had numbers that can be read. -/

namespace DetectionMerge

open Nat (ofDigitChars)

/-! ### Numbers in ASCII digits -/

namespace Text

theorem mapM_asciiDigit?_eq_some_iff {cs : List Char} {digits : List Nat} :
    cs.mapM asciiDigit? = some digits ↔
      (∀ c ∈ cs, c.isDigit) ∧ digits = cs.map fun c => c.toNat - '0'.toNat := by
  rw [Traversal.mapM_eq_some_iff]
  induction cs generalizing digits with
  | nil => simp
  | cons c cs ih =>
    rw [List.forall₂_cons_left_iff, List.forall_mem_cons, List.map_cons]
    constructor
    · rintro ⟨digit, digits, first, rest, rfl⟩
      obtain ⟨digit, rfl⟩ := asciiDigit?_eq_some_iff.1 first
      obtain ⟨inside, rfl⟩ := ih.1 rest
      exact ⟨⟨digit, inside⟩, rfl⟩
    · rintro ⟨⟨first, inside⟩, rfl⟩
      exact ⟨_, _, asciiDigit?_of_isDigit first, ih.2 ⟨inside, rfl⟩, rfl⟩

theorem natural?_eq_some_iff {cs : List Char} (nonempty : cs ≠ []) {n : ℕ} :
    natural? cs = some n ↔ (∀ c ∈ cs, c.isDigit) ∧ n = ofDigitChars 10 cs 0 := by
  simp only [natural?, Option.bind_eq_bind, Option.bind_eq_some_iff, mapM_asciiDigit?_eq_some_iff]
  constructor
  · rintro ⟨_, ⟨digits, rfl⟩, h⟩
    rw [if_neg (by simpa using nonempty), Option.some.injEq, List.foldl_map] at h
    exact ⟨digits, h.symm⟩
  · rintro ⟨digits, rfl⟩
    refine ⟨_, ⟨digits, rfl⟩, ?_⟩
    rw [if_neg (by simpa using nonempty), List.foldl_map]
    rfl

end Text

namespace SpelledNumber

open FiniteBinary64 (unitsPerOne)

/-- The exact magnitude of a numeral. -/
def magnitude (n : SpelledNumber) : ℚ :=
  ofDigitChars 10 n.whole 0 + ofDigitChars 10 n.fraction 0 / 10 ^ n.fraction.length

/-- The numeral of its digits in one. -/
theorem magnitude_eq (n : SpelledNumber) :
    n.magnitude = (ofDigitChars 10 (n.whole ++ n.fraction) 0 : ℕ) *
      (10 : ℚ) ^ (-(n.fraction.length : ℤ)) := by
  rw [Nat.ofDigitChars_append, Nat.ofDigitChars_eq_ofDigitChars_zero]
  have power : (10 : ℚ) ^ n.fraction.length ≠ 0 := by positivity
  rw [magnitude, zpow_neg, zpow_natCast]
  push_cast
  field_simp

theorem isNearest_nearest (n : SpelledNumber) :
    (Decimal.nearest ⟨n.negative, ofDigitChars 10 (n.whole ++ n.fraction) 0,
      -n.fraction.length⟩).IsNearest n.negative (unitsPerOne * n.magnitude) := by
  have nearest := Decimal.isNearest_nearest
    ⟨n.negative, ofDigitChars 10 (n.whole ++ n.fraction) 0, -n.fraction.length⟩
  rwa [Decimal.magnitude, ← magnitude_eq] at nearest

/-- A numeral in ASCII digits is read as the nearest number, and no other is read. -/
theorem read?_eq_some_iff {n : SpelledNumber} (numeral : n.IsNumeral) {x : Binary64} :
    n.read? = some x ↔ (∀ c ∈ n.whole ++ n.fraction, c.isDigit) ∧
      x.IsNearest n.negative (unitsPerOne * n.magnitude) := by
  rw [read?, Option.map_eq_some_iff]
  simp only [Text.natural?_eq_some_iff (List.append_ne_nil_of_left_ne_nil numeral.whole_ne_nil _)]
  constructor
  · rintro ⟨_, ⟨digits, rfl⟩, rfl⟩
    exact ⟨digits, n.isNearest_nearest⟩
  · rintro ⟨digits, near⟩
    exact ⟨_, ⟨digits, rfl⟩, n.isNearest_nearest.unique near⟩

end SpelledNumber

/-! ### Scores -/

namespace ScoreRow

open FiniteBinary64 (unitsPerOne)

variable {line : List Char} {row : ScoreRow} {score : Score}

/-- The numbers of a row can be read: they are in ASCII digits, and the limit has
at most 32 bits. -/
structure IsReadable (row : ScoreRow) : Prop where
  limit_isDigit : ∀ c ∈ row.limit, c.isDigit
  limit_lt : ofDigitChars 10 row.limit 0 < 2 ^ 32
  value_isDigit : ∀ c ∈ row.value.whole ++ row.value.fraction, c.isDigit

/-- A score has the parts of a row. -/
structure Means (row : ScoreRow) (score : Score) : Prop where
  kind : score.kind = row.kind
  threshold : score.threshold = String.ofList row.threshold
  area : score.area = String.ofList row.area
  limit : score.maxDetections.toNat = ofDigitChars 10 row.limit 0
  value : score.value.IsNearest row.value.negative (unitsPerOne * row.value.magnitude)

theorem ofRow?_eq_some_iff (formed : row.IsWellFormed) :
    Score.ofRow? row = some score ↔ row.IsReadable ∧ row.Means score := by
  simp only [Score.ofRow?, Option.bind_eq_bind, Option.bind_eq_some_iff,
    Text.natural?_eq_some_iff formed.limit_ne_nil, SpelledNumber.read?_eq_some_iff formed.value]
  constructor
  · rintro ⟨limit, ⟨limitDigits, rfl⟩, value, ⟨valueDigits, near⟩, h⟩
    split_ifs at h with small
    cases h
    exact ⟨⟨limitDigits, small, valueDigits⟩, rfl, rfl, rfl, UInt32.toNat_ofNat_of_lt small, near⟩
  · rintro ⟨⟨limitDigits, small, valueDigits⟩, means⟩
    refine ⟨_, ⟨limitDigits, rfl⟩, _, ⟨valueDigits, means.value⟩, ?_⟩
    rw [if_pos (show _ < UInt32.size from small), ← means.limit, UInt32.ofNat_toNat, ← means.kind,
      ← means.threshold, ← means.area]
    rfl

theorem exists_means (readable : row.IsReadable) : ∃ score, row.Means score :=
  ⟨⟨row.kind, _, _, .ofNat (ofDigitChars 10 row.limit 0), _⟩, rfl, rfl, rfl,
    UInt32.toNat_ofNat_of_lt readable.limit_lt, row.value.isNearest_nearest⟩

theorem ofRow?_eq_none_iff (formed : row.IsWellFormed) :
    Score.ofRow? row = none ↔ ¬row.IsReadable := by
  constructor
  · intro h readable
    obtain ⟨score, means⟩ := exists_means readable
    rw [(ofRow?_eq_some_iff formed).2 ⟨readable, means⟩] at h
    cases h
  · intro unreadable
    cases read : Score.ofRow? row with
    | none => rfl
    | some score => exact absurd ((ofRow?_eq_some_iff formed).1 read).1 unreadable

end ScoreRow

namespace Score

open ScoreRow (Begins Preferred)

/-- What a line gives, by its readings. -/
inductive Yields (line : List Char) : Option Score → Prop
  | score {row : ScoreRow} {s : Score} (preferred : Preferred line row) (readable : row.IsReadable)
    (means : row.Means s) : Yields line (some s)
  | unreadable {row : ScoreRow} (preferred : Preferred line row) (unreadable : ¬row.IsReadable) :
    Yields line none
  | nothing (absent : ∀ row, ¬Begins line row) : Yields line none

theorem yields_ofLine? (line : List Char) : Yields line (ofLine? line) := by
  rw [ofLine?]
  cases read : ScoreRow.ofLine? line with
  | none =>
    refine .nothing fun row begins => ?_
    obtain ⟨found, read', -⟩ := begins.exists_ofLine?
    cases read.symm.trans read'
  | some row =>
    have preferred := ScoreRow.ofLine?_eq_some_iff.1 read
    have formed := preferred.begins.1
    rw [Option.bind_some]
    cases scored : ofRow? row with
    | none => exact .unreadable preferred ((ScoreRow.ofRow?_eq_none_iff formed).1 scored)
    | some score =>
      obtain ⟨readable, means⟩ := (ScoreRow.ofRow?_eq_some_iff formed).1 scored
      exact .score preferred readable means

theorem ofLine?_of_yields {line : List Char} {found : Option Score} (h : Yields line found) :
    ofLine? line = found := by
  cases h with
  | score preferred readable means =>
    rw [ofLine?, ScoreRow.ofLine?_eq_some_iff.2 preferred, Option.bind_some,
      (ScoreRow.ofRow?_eq_some_iff preferred.begins.1).2 ⟨readable, means⟩]
  | unreadable preferred unreadable =>
    rw [ofLine?, ScoreRow.ofLine?_eq_some_iff.2 preferred, Option.bind_some,
      (ScoreRow.ofRow?_eq_none_iff preferred.begins.1).2 unreadable]
  | nothing absent =>
    cases read : ScoreRow.ofLine? line with
    | none => rw [ofLine?, read, Option.bind_none]
    | some row => exact absurd (ScoreRow.begins_of_ofLine? read) (absent row)

end Score

namespace Summary

open ScoreRow (Begins Preferred)

/-- A report has the scores that its lines give, in their order. What a line gives
is determined by its readings, of which one counts, and of a reading the threshold
determines all parts but the value. -/
theorem scores_ofReport (report : List Char) :
    (∃ found, List.Forall₂ Score.Yields (Text.lines report) found ∧
      (Summary.ofReport report).scores = found.reduceOption) ∧
    (∀ line, ∃! found, Score.Yields line found) ∧
    (∀ line row, Begins line row → ∃! best, Preferred line best) ∧
    ∀ line row other, Begins line row → Begins line other → row.threshold = other.threshold →
      row.kind = other.kind ∧ row.area = other.area ∧ row.limit = other.limit := by
  refine ⟨⟨(Text.lines report).map Score.ofLine?, ?_, ?_⟩, fun line => ?_,
    fun line row begins => ?_, fun line row other => Begins.parts_eq⟩
  · rw [List.forall₂_map_right_iff, List.forall₂_same]
    exact fun line _ => Score.yields_ofLine? line
  · show (Text.lines report).filterMap (id ∘ Score.ofLine?) = List.filterMap id _
    rw [List.filterMap_map]
  · exact ⟨_, Score.yields_ofLine? line, fun _ h => (Score.ofLine?_of_yields h).symm⟩
  · obtain ⟨best, preferred⟩ := begins.exists_preferred
    exact ⟨best, preferred, fun _ => preferred.unique⟩

/-- A line that can be read in two ways: the first value can be part of the second
threshold. -/
def ambiguousLine : List Char :=
  "Average Precision (AP) @[IoU=a|area=b|maxDets=1]=0.5|area=c|maxDets=2]=-1.250".toList

/-- Its first reading. -/
def shortRow : ScoreRow :=
  ⟨.averagePrecision, ['a'], ['b'], ['1'], ⟨false, ['0'], ['5']⟩⟩

/-- The second reading counts. -/
theorem scores_ofReport_ambiguousLine :
    Begins ambiguousLine shortRow ∧ (∃! best, Preferred ambiguousLine best) ∧
      (Summary.ofReport ambiguousLine).scores.map (·.area) = ["c"] := by
  have formed : shortRow.IsWellFormed := by
    refine ⟨by decide, List.forall_mem_singleton.2 (by decide +kernel), by decide,
      List.forall_mem_singleton.2 (by decide +kernel), by decide,
      List.forall_mem_singleton.2 (by decide +kernel), by decide, ?_, ?_⟩
    · exact List.forall_mem_singleton.2 (by decide +kernel)
    · exact List.forall_mem_singleton.2 (by decide +kernel)
  have begins : Begins ambiguousLine shortRow := by
    refine ⟨formed, .averagePrecision, ⟨[], [' '], [' '], []⟩, ⟨[], [], [], [], [], [], [], [], []⟩,
      "|area=c|maxDets=2]=-1.250".toList, ⟨?_, ?_, ?_, ?_, ?_, ?_⟩,
      ⟨?_, ?_, ?_, ?_, ?_, ?_, ?_, ?_, ?_⟩, ?_⟩
    all_goals decide +kernel
  exact ⟨begins, (scores_ofReport ambiguousLine).2.2.1 _ _ begins, by decide +kernel⟩

end Summary

end DetectionMerge
