import DetectionMerge.Proofs.Scores.Parts
import DetectionMerge.Scores.Summary

/-! The layout of a row of a score table, and its readings. A line can begin with
a row in several ways: the threshold may take in bars, and the numeral at the end
may be cut short. The reading that counts is the one with the longest threshold,
and among these the one with the longest numeral. -/

namespace DetectionMerge

open Text

/-- The last word of a kind's long name. -/
def ScoreKind.word : ScoreKind → String
  | .averagePrecision => "Precision"
  | .averageRecall => "Recall"

/-! ### White space in a row -/

/-- The white space before the threshold, by what it follows. -/
structure HeadPadding where
  start : List Char
  afterWord : List Char
  afterKind : List Char
  afterBracket : List Char

/-- The white space behind the threshold, by what it follows. -/
structure EndingPadding where
  afterThreshold : List Char
  afterBar : List Char
  afterAreaKey : List Char
  afterArea : List Char
  afterSecondBar : List Char
  afterLimitKey : List Char
  afterLimit : List Char
  afterClosing : List Char
  afterEquals : List Char

/-- Some is needed on both sides of the short name. -/
structure HeadPadding.IsBlank (pad : HeadPadding) : Prop where
  start : Blank pad.start
  afterWord_ne_nil : pad.afterWord ≠ []
  afterWord : Blank pad.afterWord
  afterKind_ne_nil : pad.afterKind ≠ []
  afterKind : Blank pad.afterKind
  afterBracket : Blank pad.afterBracket

structure EndingPadding.IsBlank (pad : EndingPadding) : Prop where
  afterThreshold : Blank pad.afterThreshold
  afterBar : Blank pad.afterBar
  afterAreaKey : Blank pad.afterAreaKey
  afterArea : Blank pad.afterArea
  afterSecondBar : Blank pad.afterSecondBar
  afterLimitKey : Blank pad.afterLimitKey
  afterLimit : Blank pad.afterLimit
  afterClosing : Blank pad.afterClosing
  afterEquals : Blank pad.afterEquals

namespace ScoreRow

/-! ### The layout -/

/-- What precedes the threshold. Nothing ties the long name to the short one. -/
def spellHead (word : ScoreKind) (pad : HeadPadding) (kind : ScoreKind) : List Char :=
  [pad.start, "Average ".toList, word.word.toList, pad.afterWord, ['('], kind.name.toList, [')'],
    pad.afterKind, ['@', '['], pad.afterBracket, "IoU=".toList].flatten

/-- What stands between the threshold and the value. -/
def spellEnding (pad : EndingPadding) (area limit : List Char) : List Char :=
  [pad.afterThreshold, ['|'], pad.afterBar, "area=".toList, pad.afterAreaKey, area, pad.afterArea,
    ['|'], pad.afterSecondBar, "maxDets=".toList, pad.afterLimitKey, limit, pad.afterLimit, [']'],
    pad.afterClosing, ['='], pad.afterEquals].flatten

/-- A row as it is written. -/
def spell (row : ScoreRow) (word : ScoreKind) (head : HeadPadding) (ending : EndingPadding) :
    List Char :=
  spellHead word head row.kind ++ (row.threshold ++ (spellEnding ending row.area row.limit ++
    row.value.text))

/-- The parts are not empty and consist of the characters that they may have. -/
structure IsWellFormed (row : ScoreRow) : Prop where
  threshold_ne_nil : row.threshold ≠ []
  threshold : ∀ c ∈ row.threshold, isBlank c = false
  area_ne_nil : row.area ≠ []
  area : ∀ c ∈ row.area, isWord c
  limit_ne_nil : row.limit ≠ []
  limit : ∀ c ∈ row.limit, isDigit c
  value : row.value.IsNumeral

/-- A line begins with a row, in one of its readings. -/
def Begins (line : List Char) (row : ScoreRow) : Prop :=
  row.IsWellFormed ∧ ∃ word head ending rest, HeadPadding.IsBlank head ∧
    EndingPadding.IsBlank ending ∧ line = row.spell word head ending ++ rest

/-- The reading that counts. -/
structure Preferred (line : List Char) (row : ScoreRow) : Prop where
  begins : Begins line row
  threshold_le : ∀ other, Begins line other → other.threshold.length ≤ row.threshold.length
  value_le : ∀ other, Begins line other → other.threshold = row.threshold →
    other.value.text.length ≤ row.value.text.length

variable {cs rest line area limit threshold : List Char} {kind : ScoreKind}
  {value : SpelledNumber}

/-! ### The head of a row -/

/-- Reads what precedes the threshold. -/
def head? (line : List Char) : Option (ScoreKind × List Char) := do
  let rest ← after? "Average ".toList (trimLeft line)
  let rest ← (after? "Precision".toList rest).or (after? "Recall".toList rest)
  let rest ← (afterBlank? rest).bind (after? ['('])
  let (kind, rest) ← kind? rest
  let rest ← after? [')'] rest
  let rest ← (afterBlank? rest).bind (after? ['@', '['])
  let rest ← after? "IoU=".toList (trimLeft rest)
  return (kind, rest)

theorem ofLine?_eq (line : List Char) : ofLine? line = (head? line).bind fun (kind, rest) =>
    (threshold? rest).map fun (threshold, area, limit, value) =>
      ⟨kind, threshold, area, limit, value⟩ := by
  simp only [ofLine?, head?, Option.bind_eq_bind, Option.bind_assoc, Option.pure_def,
    Option.bind_some, Option.map_eq_bind]
  rfl

theorem word_eq_some_iff :
    (after? "Precision".toList cs).or (after? "Recall".toList cs) = some rest ↔
      ∃ word : ScoreKind, cs = word.word.toList ++ rest := by
  rw [Option.or_eq_some_iff, after?_eq_some_iff, after?_eq_some_iff]
  constructor
  · rintro (first | ⟨-, second⟩)
    · exact ⟨.averagePrecision, first⟩
    · exact ⟨.averageRecall, second⟩
  · rintro ⟨word, rfl⟩
    cases word with
    | averagePrecision => exact .inl rfl
    | averageRecall => exact .inr ⟨rfl, rfl⟩

theorem kind?_eq_some_iff : kind? cs = some (kind, rest) ↔ cs = kind.name.toList ++ rest := by
  constructor
  · intro h
    unfold kind? at h
    split at h
    · next first =>
      cases h
      exact after?_eq_some_iff.1 first
    · next second =>
      cases h
      exact after?_eq_some_iff.1 second
    · cases h
  · rintro rfl
    cases kind with
    | averagePrecision => rfl
    | averageRecall => rfl

theorem spellHead_append (word : ScoreKind) (pad : HeadPadding) (kind : ScoreKind)
    (rest : List Char) : spellHead word pad kind ++ rest =
      pad.start ++ ("Average ".toList ++ (word.word.toList ++ (pad.afterWord ++ (['('] ++
        (kind.name.toList ++ ([')'] ++ (pad.afterKind ++ (['@', '['] ++ (pad.afterBracket ++
          ("IoU=".toList ++ rest)))))))))) := by
  simp [spellHead]

theorem head?_eq_some_iff : head? line = some (kind, rest) ↔
    ∃ word pad, HeadPadding.IsBlank pad ∧ line = spellHead word pad kind ++ rest := by
  constructor
  · intro h
    simp only [head?, Option.bind_eq_bind, Option.bind_eq_some_iff, Prod.exists] at h
    obtain ⟨_, average, _, named, _, opened, kind, _, short, _, closed, _, bracket, _, key, ⟨⟩⟩ := h
    obtain ⟨start, blankStart, rfl⟩ := (after?_trimLeft_eq_some_iff (by decide)).1 average
    obtain ⟨word, rfl⟩ := word_eq_some_iff.1 named
    obtain ⟨afterWord, someWord, blankWord, rfl⟩ :=
      (after?_afterBlank?_eq_some_iff (by decide)).1 (Option.bind_eq_some_iff.2 opened)
    obtain rfl := kind?_eq_some_iff.1 short
    obtain rfl := after?_eq_some_iff.1 closed
    obtain ⟨afterKind, someKind, blankKind, rfl⟩ :=
      (after?_afterBlank?_eq_some_iff (by decide)).1 (Option.bind_eq_some_iff.2 bracket)
    obtain ⟨afterBracket, blankBracket, rfl⟩ := (after?_trimLeft_eq_some_iff (by decide)).1 key
    exact ⟨word, ⟨start, afterWord, afterKind, afterBracket⟩,
      ⟨blankStart, someWord, blankWord, someKind, blankKind, blankBracket⟩,
      by rw [spellHead_append]⟩
  · rintro ⟨word, pad, blank, rfl⟩
    rw [spellHead_append]
    simp only [head?, Option.bind_eq_bind]
    rw [(after?_trimLeft_eq_some_iff (by decide)).2 ⟨pad.start, blank.start, rfl⟩, Option.bind_some,
      word_eq_some_iff.2 ⟨word, rfl⟩, Option.bind_some,
      (after?_afterBlank?_eq_some_iff (by decide)).2
        ⟨pad.afterWord, blank.afterWord_ne_nil, blank.afterWord, rfl⟩, Option.bind_some,
      kind?_eq_some_iff.2 rfl, Option.bind_some, after?_eq_some_iff.2 rfl, Option.bind_some,
      (after?_afterBlank?_eq_some_iff (by decide)).2
        ⟨pad.afterKind, blank.afterKind_ne_nil, blank.afterKind, rfl⟩, Option.bind_some,
      (after?_trimLeft_eq_some_iff (by decide)).2 ⟨pad.afterBracket, blank.afterBracket, rfl⟩]
    rfl

/-! ### The ending of a row -/

/-- A text goes on with the parts between threshold and value, up to the value. -/
def EndsIn (cs area limit rest : List Char) : Prop :=
  area ≠ [] ∧ (∀ c ∈ area, isWord c) ∧ limit ≠ [] ∧ (∀ c ∈ limit, isDigit c) ∧
    ∃ pad, EndingPadding.IsBlank pad ∧ cs = spellEnding pad area limit ++ rest

theorem spellEnding_append (pad : EndingPadding) (area limit rest : List Char) :
    spellEnding pad area limit ++ rest =
      pad.afterThreshold ++ (['|'] ++ (pad.afterBar ++ ("area=".toList ++ (pad.afterAreaKey ++
        (area ++ (pad.afterArea ++ (['|'] ++ (pad.afterSecondBar ++ ("maxDets=".toList ++
          (pad.afterLimitKey ++ (limit ++ (pad.afterLimit ++ ([']'] ++ (pad.afterClosing ++
            (['='] ++ (pad.afterEquals ++ rest)))))))))))))))) := by
  simp [spellEnding]

theorem number?_trimLeft_eq_some_iff : number? (trimLeft cs) = some value ↔
    ∃ pad rest, Blank pad ∧ cs = pad ++ rest ∧ number? rest = some value := by
  constructor
  · intro h
    obtain ⟨pad, blank, split⟩ := exists_eq_append_trimLeft cs
    exact ⟨pad, trimLeft cs, blank, split, h⟩
  · rintro ⟨pad, rest, blank, rfl, h⟩
    obtain ⟨numeral, more, rfl⟩ := isNumeral_of_number? h
    rw [trimLeft_append blank, trimLeft_solid (isSolid_text numeral), h]

theorem ending?_eq_some_iff : ending? cs = some (area, limit, value) ↔
    ∃ rest, EndsIn cs area limit rest ∧ number? rest = some value := by
  constructor
  · intro h
    simp only [ending?, Option.bind_eq_bind, Option.bind_eq_some_iff, Prod.exists] at h
    obtain ⟨_, bar, _, areaKey, area, _, areaRun, _, secondBar, _, limitKey, limit, _, limitRun, _,
      closing, _, equals, value, number, ⟨⟩⟩ := h
    obtain ⟨afterThreshold, blankThreshold, rfl⟩ :=
      (after?_trimLeft_eq_some_iff (by decide)).1 bar
    obtain ⟨afterBar, blankBar, rfl⟩ := (after?_trimLeft_eq_some_iff (by decide)).1 areaKey
    obtain ⟨afterAreaKey, blankAreaKey, rfl, someArea, areaInside, -⟩ :=
      (run?_trimLeft_eq_some_iff fun _ => isBlank_of_isWord).1 areaRun
    obtain ⟨afterArea, blankArea, rfl⟩ := (after?_trimLeft_eq_some_iff (by decide)).1 secondBar
    obtain ⟨afterSecondBar, blankSecondBar, rfl⟩ :=
      (after?_trimLeft_eq_some_iff (by decide)).1 limitKey
    obtain ⟨afterLimitKey, blankLimitKey, rfl, someLimit, limitInside, -⟩ :=
      (run?_trimLeft_eq_some_iff fun _ => isBlank_of_isDigit).1 limitRun
    obtain ⟨afterLimit, blankLimit, rfl⟩ := (after?_trimLeft_eq_some_iff (by decide)).1 closing
    obtain ⟨afterClosing, blankClosing, rfl⟩ := (after?_trimLeft_eq_some_iff (by decide)).1 equals
    obtain ⟨afterEquals, rest, blankEquals, rfl, read⟩ := number?_trimLeft_eq_some_iff.1 number
    refine ⟨rest, ⟨someArea, areaInside, someLimit, limitInside, ⟨afterThreshold, afterBar,
      afterAreaKey, afterArea, afterSecondBar, afterLimitKey, afterLimit, afterClosing,
      afterEquals⟩, ⟨blankThreshold, blankBar, blankAreaKey, blankArea, blankSecondBar,
      blankLimitKey, blankLimit, blankClosing, blankEquals⟩, ?_⟩, read⟩
    rw [spellEnding_append]
  · rintro ⟨rest, ⟨someArea, areaInside, someLimit, limitInside, pad, blank, rfl⟩, number⟩
    have areaEnds (more : List Char) : Stops isWord (pad.afterArea ++ (['|'] ++ more)) :=
      stops_append (fun _ => isBlank_of_isWord) blank.afterArea (stops_cons.2 (by decide +kernel))
    have limitEnds (more : List Char) : Stops isDigit (pad.afterLimit ++ ([']'] ++ more)) :=
      stops_append (fun _ => isBlank_of_isDigit) blank.afterLimit (stops_cons.2 (by decide))
    rw [spellEnding_append]
    simp only [ending?, Option.bind_eq_bind]
    rw [(after?_trimLeft_eq_some_iff (by decide)).2 ⟨_, blank.afterThreshold, rfl⟩,
      Option.bind_some, (after?_trimLeft_eq_some_iff (by decide)).2 ⟨_, blank.afterBar, rfl⟩,
      Option.bind_some, (run?_trimLeft_eq_some_iff fun _ => isBlank_of_isWord).2
        ⟨_, blank.afterAreaKey, rfl, someArea, areaInside, areaEnds _⟩, Option.bind_some,
      (after?_trimLeft_eq_some_iff (by decide)).2 ⟨_, blank.afterArea, rfl⟩, Option.bind_some,
      (after?_trimLeft_eq_some_iff (by decide)).2 ⟨_, blank.afterSecondBar, rfl⟩,
      Option.bind_some, (run?_trimLeft_eq_some_iff fun _ => isBlank_of_isDigit).2
        ⟨_, blank.afterLimitKey, rfl, someLimit, limitInside, limitEnds _⟩, Option.bind_some,
      (after?_trimLeft_eq_some_iff (by decide)).2 ⟨_, blank.afterLimit, rfl⟩, Option.bind_some,
      (after?_trimLeft_eq_some_iff (by decide)).2 ⟨_, blank.afterClosing, rfl⟩, Option.bind_some,
      number?_trimLeft_eq_some_iff.2 ⟨_, _, blank.afterEquals, rfl, number⟩]
    rfl

end ScoreRow

end DetectionMerge
