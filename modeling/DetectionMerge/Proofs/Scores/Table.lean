import DetectionMerge.Proofs.Scores.Report
import DetectionMerge.Proofs.Text.Lines

/-! Tables that are read back. The threshold of a row that is written has no bars, so
that the row has one reading only, however it is padded: a longer threshold would
leave fewer than the two bars that have to follow it. -/

namespace DetectionMerge

open Text

/-! ### Characters -/

theorem Text.isDigit_of_isAscii {c : Char} (h : c.isDigit) : isDigit c := by
  rw [Char.isDigit_iff_toNat] at h
  exact List.any_eq_true.2 ⟨(0x30, 0x39), List.mem_cons_self, by simpa using h⟩

/-- A numeral consists of its signs and of digits. -/
theorem SpelledNumber.not_mem_text {n : SpelledNumber} (numeral : n.IsNumeral) {c : Char}
    (minus : c ≠ '-') (point : c ≠ '.') (digit : isDigit c = false) : c ∉ n.text := by
  intro member
  simp only [text, fractionText, List.mem_append] at member
  obtain sign | whole | fraction := member
  · split_ifs at sign
    · exact minus (List.mem_singleton.1 sign)
    · cases sign
  · rw [numeral.whole c whole] at digit
    cases digit
  · split_ifs at fraction
    · cases fraction
    · obtain rfl | inside := List.mem_cons.1 fraction
      · exact point rfl
      · rw [numeral.fraction c inside] at digit
        cases digit

namespace ScoreRow

variable {cs tail area limit threshold : List Char} {pad : EndingPadding}

/-! ### Bars -/

theorem count_bar_of_class {p : Char → Bool} (inside : ∀ c ∈ cs, p c) (other : p '|' = false) :
    cs.count '|' = 0 := by
  refine List.count_eq_zero.2 fun member => ?_
  have bar := inside _ member
  rw [other] at bar
  cases bar

theorem count_bar_spellEnding (blank : pad.IsBlank) (areaInside : ∀ c ∈ area, isWord c)
    (limitInside : ∀ c ∈ limit, isDigit c) : (spellEnding pad area limit).count '|' = 2 := by
  have none {pad : List Char} (blank : Blank pad) : pad.count '|' = 0 :=
    count_bar_of_class blank (by decide)
  have areaNone : area.count '|' = 0 := count_bar_of_class areaInside (by decide +kernel)
  have limitNone : limit.count '|' = 0 := count_bar_of_class limitInside (by decide)
  simp only [spellEnding, List.flatten_cons, List.flatten_nil, List.count_append, List.count_nil,
    none blank.afterThreshold, none blank.afterBar, none blank.afterAreaKey, none blank.afterArea,
    none blank.afterSecondBar, none blank.afterLimitKey, none blank.afterLimit,
    none blank.afterClosing, none blank.afterEquals, areaNone, limitNone]
  rfl

/-- A threshold cannot go on in an ending without taking in the first bar. -/
theorem bar_mem_of_spellEnding_append {more rest tail : List Char} (blank : pad.IsBlank)
    (split : spellEnding pad area limit ++ rest = more ++ tail) (nonempty : more ≠ [])
    (solid : ∀ c ∈ more, isBlank c = false) : '|' ∈ more := by
  obtain ⟨c, more, rfl⟩ := List.exists_cons_of_ne_nil nonempty
  rw [spellEnding_append] at split
  cases start : pad.afterThreshold with
  | nil =>
    rw [start] at split
    obtain ⟨rfl, -⟩ := List.cons.inj split
    exact List.mem_cons_self
  | cons b spaces =>
    rw [start] at split
    obtain ⟨rfl, -⟩ := List.cons.inj split
    have space := blank.afterThreshold b (by rw [start]; exact List.mem_cons_self)
    rw [solid b List.mem_cons_self] at space
    cases space

/-- A threshold is the longest if only the two bars of its ending follow it. -/
theorem threshold?_of_count_bar {ending : List Char × List Char × SpelledNumber}
    (nonempty : threshold ≠ []) (solid : ∀ c ∈ threshold, isBlank c = false)
    (ends : ending? tail = some ending) (bars : tail.count '|' = 2) :
    threshold? (threshold ++ tail) = some (threshold, ending) := by
  obtain ⟨threshold', ending', found, ⟨rfl, rfl⟩ | longer⟩ :=
    threshold?_longest nonempty solid ends
  · exact found
  -- a longer threshold takes in one of the two bars, and two more follow it
  exfalso
  obtain ⟨-, solid', tail', split, ends'⟩ := ending?_of_threshold? found
  obtain ⟨rest, ⟨-, -, -, -, pad, blank, rfl⟩, -⟩ := ending?_eq_some_iff.1 ends
  obtain ⟨rest', ⟨-, areaInside, -, limitInside, pad', blank', rfl⟩, -⟩ :=
    ending?_eq_some_iff.1 ends'
  obtain ⟨more, rfl, behind⟩ | ⟨more, rfl, -⟩ := List.append_eq_append_iff.1 split
  · have some : more ≠ [] := by
      rintro rfl
      simp at longer
    have bar := bar_mem_of_spellEnding_append blank behind some
      fun c member => solid' c (List.mem_append_right _ member)
    rw [behind, List.count_append, List.count_append,
      count_bar_spellEnding blank' areaInside limitInside] at bars
    have := List.count_pos_iff.2 bar
    omega
  · simp at longer

/-! ### The end of a row -/

/-- A row that takes in all of a line ends in its numeral. -/
theorem mem_text_of_concat {row : ScoreRow} {line : List Char} {c : Char} {word : ScoreKind}
    {head : HeadPadding} {ending : EndingPadding} (numeral : row.value.IsNumeral)
    (same : line ++ [c] = row.spell word head ending) : c ∈ row.value.text := by
  have nonempty : row.value.text ≠ [] := by
    intro empty
    have solid := isSolid_text numeral
    rw [empty] at solid
    cases solid
  have last := congrArg List.getLast? same
  rw [spell, ← List.append_assoc, ← List.append_assoc, List.getLast?_append_of_ne_nil _ nonempty,
    List.getLast?_concat] at last
  exact List.mem_of_getLast? last.symm

end ScoreRow

/-! ### Entries -/

/-- A score to be written, with its value as a numeral. -/
structure TableEntry where
  kind : ScoreKind
  threshold : List Char
  area : List Char
  limit : UInt32
  value : SpelledNumber

namespace TableEntry

open FiniteBinary64 (unitsPerOne)
open ScoreRow

variable {entry : TableEntry} {score : Score} {head : HeadPadding} {ending : EndingPadding}
  {trailing : List Char}

/-- The texts are not empty, a threshold has no white space and no bars, an area
consists of word characters, and the numeral is in ASCII digits. -/
structure IsWellFormed (entry : TableEntry) : Prop where
  threshold_ne_nil : entry.threshold ≠ []
  threshold : ∀ c ∈ entry.threshold, isBlank c = false ∧ c ≠ '|'
  area_ne_nil : entry.area ≠ []
  area : ∀ c ∈ entry.area, isWord c
  whole_ne_nil : entry.value.whole ≠ []
  value : ∀ c ∈ entry.value.whole ++ entry.value.fraction, c.isDigit

def row (entry : TableEntry) : ScoreRow :=
  ⟨entry.kind, entry.threshold, entry.area, Nat.toDigits 10 entry.limit.toNat, entry.value⟩

/-- An entry has been read back. -/
structure ReadsAs (entry : TableEntry) (score : Score) : Prop where
  kind : score.kind = entry.kind
  threshold : score.threshold = String.ofList entry.threshold
  area : score.area = String.ofList entry.area
  limit : score.maxDetections = entry.limit
  value : score.value.IsNearest entry.value.negative (unitsPerOne * entry.value.magnitude)

theorem isDigit_limit (entry : TableEntry) : ∀ c ∈ entry.row.limit, c.isDigit :=
  Text.isDigit_toDigits _

theorem ofDigitChars_limit (entry : TableEntry) :
    Nat.ofDigitChars 10 entry.row.limit 0 = entry.limit.toNat :=
  Nat.ofDigitChars_toDigits (by norm_num) (by norm_num)

theorem IsWellFormed.isNumeral (formed : entry.IsWellFormed) : entry.value.IsNumeral where
  whole_ne_nil := formed.whole_ne_nil
  whole c member := isDigit_of_isAscii (formed.value c (List.mem_append_left _ member))
  fraction c member := isDigit_of_isAscii (formed.value c (List.mem_append_right _ member))

theorem IsWellFormed.row (formed : entry.IsWellFormed) : entry.row.IsWellFormed where
  threshold_ne_nil := formed.threshold_ne_nil
  threshold c member := (formed.threshold c member).1
  area_ne_nil := formed.area_ne_nil
  area := formed.area
  limit_ne_nil := Nat.toDigits_ne_nil
  limit c member := isDigit_of_isAscii (entry.isDigit_limit c member)
  value := formed.isNumeral

theorem IsWellFormed.isReadable (formed : entry.IsWellFormed) : entry.row.IsReadable where
  limit_isDigit := entry.isDigit_limit
  limit_lt := by
    rw [ofDigitChars_limit]
    exact entry.limit.toNat_lt
  value_isDigit := formed.value

theorem readsAs_of_means (means : entry.row.Means score) : entry.ReadsAs score where
  kind := means.kind
  threshold := means.threshold
  area := means.area
  limit := UInt32.toNat.inj (means.limit.trans entry.ofDigitChars_limit)
  value := means.value

/-! ### Rows that are read back -/

/-- White space behind a numeral does not belong to it. -/
theorem endsBefore_of_blank {fraction : List Char} (blank : Blank trailing) :
    SpelledNumber.EndsBefore fraction trailing := by
  have stops : Stops isDigit trailing := by
    simpa using stops_append (fun _ => isBlank_of_isDigit) blank (stops_nil isDigit)
  refine ⟨stops, ?_⟩
  rintro - more rfl
  exact absurd (blank_cons.1 blank).1 (by decide)

/-- Behind the threshold of a row there are only the two bars of the ending. -/
theorem count_bar_tail (formed : entry.IsWellFormed) (blankEnding : ending.IsBlank)
    (blank : Blank trailing) : (spellEnding ending entry.area entry.row.limit ++
      (entry.value.text ++ trailing)).count '|' = 2 := by
  have text : entry.value.text.count '|' = 0 := List.count_eq_zero.2
    (SpelledNumber.not_mem_text formed.isNumeral (by decide) (by decide) (by decide))
  rw [List.count_append, List.count_append, text, count_bar_of_class blank (by decide),
    count_bar_spellEnding blankEnding formed.area formed.row.limit]

theorem ofLine?_spell (formed : entry.IsWellFormed) (word : ScoreKind) (blankHead : head.IsBlank)
    (blankEnding : ending.IsBlank) (blank : Blank trailing) :
    ScoreRow.ofLine? (entry.row.spell word head ending ++ trailing) = some entry.row := by
  have heads : head? (entry.row.spell word head ending ++ trailing) = some (entry.kind,
      entry.threshold ++ (spellEnding ending entry.area entry.row.limit ++
        (entry.value.text ++ trailing))) :=
    head?_eq_some_iff.2 ⟨word, head, blankHead, by simp [spell, row]⟩
  have ends : ending? (spellEnding ending entry.area entry.row.limit ++
      (entry.value.text ++ trailing)) = some (entry.area, entry.row.limit, entry.value) :=
    ending?_eq_some_iff.2 ⟨_, ⟨formed.area_ne_nil, formed.area, formed.row.limit_ne_nil,
      formed.row.limit, ending, blankEnding, rfl⟩,
      number?_of_endsBefore formed.isNumeral (endsBefore_of_blank blank)⟩
  have found := threshold?_of_count_bar formed.threshold_ne_nil formed.row.threshold ends
    (count_bar_tail formed blankEnding blank)
  simp only [ofLine?_eq, heads, Option.bind_some, found, Option.map_some]
  rfl

/-! ### Lines -/

/-- A line of a table, with the entry that it has been written for. Other lines do
not begin like a row. -/
inductive IsLine : Option TableEntry → List Char → Prop
  | row {entry : TableEntry} {head : HeadPadding} {ending : EndingPadding} {trailing : List Char}
    (formed : entry.IsWellFormed) (blankHead : head.IsBlank) (blankEnding : ending.IsBlank)
    (blank : Blank trailing) :
    IsLine (some entry) (entry.row.spell entry.kind head ending ++ trailing)
  | other {line : List Char} (unlike : ¬"Average ".toList <+: trimLeft line) : IsLine none line

theorem IsLine.reads {source : Option TableEntry} {line : List Char} (h : IsLine source line) :
    Option.Rel ReadsAs source (Score.ofLine? line) := by
  cases h with
  | @row entry _ _ _ formed blankHead blankEnding blank =>
    obtain ⟨score, means⟩ := ScoreRow.exists_means formed.isReadable
    rw [Score.ofLine?, ofLine?_spell formed entry.kind blankHead blankEnding blank,
      Option.bind_some, (ScoreRow.ofRow?_eq_some_iff formed.row).2 ⟨formed.isReadable, means⟩]
    exact .some (readsAs_of_means means)
  | other unlike =>
    have nothing : after? "Average ".toList (trimLeft line) = none := by
      rw [after?, if_neg (by rwa [List.isPrefixOf_iff_prefix])]
    have headless : head? line = none := by
      rw [head?, nothing]
      rfl
    rw [Score.ofLine?, ofLine?_eq, headless]
    exact .none

/-- A carriage return at the end of a line does not matter. -/
theorem IsLine.of_append_return {source : Option TableEntry} {line : List Char}
    (h : IsLine source (line ++ ['\r'])) : IsLine source line := by
  generalize same : line ++ ['\r'] = longer at h
  cases h with
  | @row entry head ending trailing formed blankHead blankEnding blank =>
    obtain rfl | ⟨spaces, b, rfl⟩ := List.eq_nil_or_concat' trailing
    · rw [List.append_nil] at same
      exact absurd (mem_text_of_concat formed.isNumeral same)
        (SpelledNumber.not_mem_text formed.isNumeral (by decide) (by decide) (by decide))
    · rw [← List.append_assoc] at same
      obtain rfl := List.append_inj_left' same rfl
      exact .row formed blankHead blankEnding (blank_append.1 blank).1
  | other unlike =>
    subst same
    refine .other fun alike => unlike ?_
    have some : trimLeft line ≠ [] := by
      rintro blank
      rw [blank] at alike
      cases List.prefix_nil.1 alike
    rw [trimLeft, List.dropWhile_append, if_neg (by simpa [trimLeft] using some)]
    exact alike.trans (List.prefix_append _ _)

end TableEntry

/-- A table is read back as its entries, in their order, among any other lines. -/
theorem Summary.scores_ofReport_intercalate {entries : List (Option TableEntry)}
    {texts : List (List Char)} (table : List.Forall₂ TableEntry.IsLine entries texts)
    (single : ∀ text ∈ texts, '\n' ∉ text) :
    List.Forall₂ TableEntry.ReadsAs entries.reduceOption
      (Summary.ofReport (['\n'].intercalate texts)).scores := by
  obtain ⟨read, holds, split⟩ :=
    exists_lines_intercalate (fun _ _ => TableEntry.IsLine.of_append_return) table single
  have scores : (Summary.ofReport (['\n'].intercalate texts)).scores =
      read.filterMap Score.ofLine? := by
    obtain rfl | rfl := split
    · rfl
    · rw [List.filterMap_append]
      exact (List.append_nil _).symm
  rw [scores]
  exact List.rel_filterMap (fun _ _ line => TableEntry.IsLine.reads line) holds

def sampleEntry : TableEntry :=
  ⟨.averageRecall, "0.50:0.95".toList, "small".toList, 100, ⟨true, ['1'], ['0', '0', '0']⟩⟩

/-- The row as it is printed, with a carriage return at its end. -/
def sampleRow : List Char :=
  " Average Recall     (AR) @[ IoU=0.50:0.95 | area= small | maxDets=100 ] = -1.000\r".toList

/-- The row between a message and an empty line. -/
def sampleTable : List (List Char) :=
  ["Accumulating evaluation results...".toList, sampleRow, []]

theorem Summary.scores_ofReport_sampleTable :
    List.Forall₂ TableEntry.IsLine [none, some sampleEntry, none] sampleTable ∧
      (∀ text ∈ sampleTable, '\n' ∉ text) ∧
      List.Forall₂ TableEntry.ReadsAs [sampleEntry]
        (Summary.ofReport (['\n'].intercalate sampleTable)).scores := by
  have formed : sampleEntry.IsWellFormed := by
    refine ⟨by decide, fun c member => ?_, by decide, ?_, by decide, ?_⟩
    · have solid := List.all_eq_true.1 (show sampleEntry.threshold.all
        (fun c => !isBlank c && c != '|') by decide +kernel) c member
      simpa using solid
    · exact List.all_eq_true.1 (by decide +kernel)
    · exact List.all_eq_true.1 (by decide +kernel)
  have row : TableEntry.IsLine (some sampleEntry) sampleRow := by
    have spelled : sampleRow = sampleEntry.row.spell .averageRecall
        ⟨[' '], List.replicate 5 ' ', [' '], [' ']⟩
        ⟨[' '], [' '], [' '], [' '], [' '], [], [' '], [' '], [' ']⟩ ++ ['\r'] := by
      decide +kernel
    rw [spelled]
    refine .row formed ⟨?_, ?_, ?_, ?_, ?_, ?_⟩ ⟨?_, ?_, ?_, ?_, ?_, ?_, ?_, ?_, ?_⟩ ?_
    all_goals decide
  have table : List.Forall₂ TableEntry.IsLine [none, some sampleEntry, none] sampleTable :=
    .cons (.other (by decide +kernel)) (.cons row (.cons (.other (by decide +kernel)) .nil))
  have single : ∀ text ∈ sampleTable, '\n' ∉ text := by decide +kernel
  exact ⟨table, single, scores_ofReport_intercalate table single⟩

end DetectionMerge
