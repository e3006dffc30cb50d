import DetectionMerge.Proofs.Scores.Lines
import Mathlib.Data.List.Find

/-! What is found in a report. A score is found under its key, and the first line that
gives one under this key counts, so the order of lines with different keys does not matter.
Every headline has a key of its own, and the standard table has one row for each. -/

namespace DetectionMerge

open Text

/-! ### Keys -/

/-- What a score is about. -/
structure ScoreKey where
  kind : ScoreKind
  threshold : String
  area : String
  maxDetections : UInt32
  deriving DecidableEq

def Score.key (s : Score) : ScoreKey := ⟨s.kind, s.threshold, s.area, s.maxDetections⟩

/-- The score with a value under the key. -/
def ScoreKey.score (key : ScoreKey) (x : Binary64) : Score :=
  ⟨key.kind, key.threshold, key.area, key.maxDetections, x⟩

theorem Score.key_eq_iff {s : Score} {key : ScoreKey} : s.key = key ↔ s = key.score s.value := by
  constructor
  · rintro rfl
    rfl
  · rintro same
    rw [same]
    rfl

namespace Summary

def Headline.key : Headline → ScoreKey
  | .ap => ⟨.averagePrecision, "0.50:0.95", "all", 100⟩
  | .ap50 => ⟨.averagePrecision, "0.50", "all", 100⟩
  | .ap75 => ⟨.averagePrecision, "0.75", "all", 100⟩
  | .apSmall => ⟨.averagePrecision, "0.50:0.95", "small", 100⟩
  | .apMedium => ⟨.averagePrecision, "0.50:0.95", "medium", 100⟩
  | .apLarge => ⟨.averagePrecision, "0.50:0.95", "large", 100⟩
  | .ar1 => ⟨.averageRecall, "0.50:0.95", "all", 1⟩
  | .ar10 => ⟨.averageRecall, "0.50:0.95", "all", 10⟩
  | .ar100 => ⟨.averageRecall, "0.50:0.95", "all", 100⟩
  | .arSmall => ⟨.averageRecall, "0.50:0.95", "small", 100⟩
  | .arMedium => ⟨.averageRecall, "0.50:0.95", "medium", 100⟩
  | .arLarge => ⟨.averageRecall, "0.50:0.95", "large", 100⟩

theorem Headline.mem_all (h : Headline) : h ∈ Headline.all := by cases h <;> decide

theorem Headline.nodup_map_key : (Headline.all.map Headline.key).Nodup := by decide

theorem Headline.key_injective : Function.Injective Headline.key := fun h h' =>
  List.inj_on_of_nodup_map Headline.nodup_map_key h.mem_all h'.mem_all

/-! ### The first line under a key -/

def findKey? (s : Summary) (key : ScoreKey) : Option Binary64 :=
  s.find? key.kind key.threshold key.area key.maxDetections

theorem headline?_eq (s : Summary) (h : Headline) : s.headline? h = s.findKey? h.key := by
  cases h <;> rfl

theorem findKey?_eq (s : Summary) (key : ScoreKey) :
    s.findKey? key = (s.scores.find? fun score => score.key = key).map (·.value) := by
  rw [findKey?, find?]
  congr 2
  funext score
  exact decide_eq_decide.2 (by rw [Score.key, ← ScoreKey.mk.injEq])

/-- A line of a report is the first one with a score under the key. -/
structure FirstUnder (report : List Char) (key : ScoreKey) (before : List (List Char))
    (line : List Char) (x : Binary64) : Prop where
  stands : ∃ after, Text.lines report = before ++ line :: after
  gives : Score.ofLine? line = some (key.score x)
  first : ∀ earlier ∈ before, ∀ y, Score.ofLine? earlier ≠ some (key.score y)

section FirstUnder

variable {report line : List Char} {key : ScoreKey} {x : Binary64}

theorem any_key_iff : ((Score.ofLine? line).any fun s => s.key = key) ↔
    ∃ y, Score.ofLine? line = some (key.score y) := by
  rw [Option.any_eq_true]
  constructor
  · rintro ⟨s, gives, under⟩
    rw [Score.key_eq_iff.1 (of_decide_eq_true under)] at gives
    exact ⟨s.value, gives⟩
  · rintro ⟨y, gives⟩
    exact ⟨_, gives, decide_eq_true rfl⟩

theorem findKey?_eq_some_iff : (ofReport report).findKey? key = some x ↔
    ∃ before line, FirstUnder report key before line x := by
  rw [findKey?_eq, ofReport, List.find?_filterMap, Option.map_eq_some_iff]
  constructor
  · rintro ⟨s, found, rfl⟩
    obtain ⟨line, found, gives⟩ := Option.bind_eq_some_iff.1 found
    obtain ⟨under, before, after, stands, first⟩ := List.find?_eq_some_iff_append.1 found
    obtain ⟨y, gives'⟩ := any_key_iff.1 under
    obtain rfl : s = key.score y := Option.some.inj (gives.symm.trans gives')
    refine ⟨before, line, ⟨after, stands⟩, gives, fun earlier member y gives => ?_⟩
    have none := first earlier member
    rw [any_key_iff.2 ⟨y, gives⟩] at none
    cases none
  · rintro ⟨before, line, ⟨after, stands⟩, gives, first⟩
    refine ⟨key.score x, Option.bind_eq_some_iff.2 ⟨line, ?_, gives⟩, rfl⟩
    refine List.find?_eq_some_iff_append.2 ⟨any_key_iff.2 ⟨x, gives⟩, before, after, stands, ?_⟩
    intro earlier member
    rw [Bool.not_eq_true', Bool.eq_false_iff, Ne, any_key_iff]
    rintro ⟨y, gives⟩
    exact first earlier member y gives

theorem findKey?_eq_none_iff : (ofReport report).findKey? key = none ↔
    ∀ line ∈ Text.lines report, ∀ y, Score.ofLine? line ≠ some (key.score y) := by
  rw [findKey?_eq, Option.map_eq_none_iff, List.find?_eq_none, ofReport]
  simp only [List.mem_filterMap, decide_eq_true_eq, Score.key_eq_iff]
  constructor
  · rintro absent line member y gives
    exact absent _ ⟨line, member, gives⟩ rfl
  · rintro absent s ⟨line, member, gives⟩ same
    exact absent line member s.value (same ▸ gives)

theorem FirstUnder.key_eq {key' : ScoreKey} {before : List (List Char)} {y : Binary64}
    (h : FirstUnder report key before line x) (h' : FirstUnder report key' before line y) :
    key = key' :=
  congrArg Score.key (Option.some.inj (h.gives.symm.trans h'.gives))

end FirstUnder

/-! ### Lines in another order -/

section Order

variable {report other : List Char}

/-- The lines of a report that give a score. -/
def scoreLines (report : List Char) : List (List Char) :=
  (Text.lines report).filter fun line => (Score.ofLine? line).isSome

/-- No two lines of a report give scores under the same key. -/
def HasDistinctKeys (report : List Char) : Prop :=
  (scoreLines report).Pairwise fun line line' =>
    ∀ s s', Score.ofLine? line = some s → Score.ofLine? line' = some s' → s.key ≠ s'.key

theorem scores_eq_filterMap_scoreLines (report : List Char) :
    (ofReport report).scores = (scoreLines report).filterMap Score.ofLine? := by
  rw [scoreLines, List.filterMap_filter]
  refine List.filterMap_congr fun line _ => ?_
  cases Score.ofLine? line <;> rfl

theorem nodup_map_key (distinct : HasDistinctKeys report) :
    ((ofReport report).scores.map Score.key).Nodup := by
  rw [scores_eq_filterMap_scoreLines, List.Nodup, List.pairwise_map, List.pairwise_filterMap]
  exact distinct.imp fun apart s gives s' gives' => apart s s' gives gives'

theorem subsingleton_of_nodup {scores : List Score} (distinct : (scores.map Score.key).Nodup)
    (key : ScoreKey) : {s ∈ scores | decide (s.key = key)}.Subsingleton := by
  rintro s ⟨member, under⟩ s' ⟨member', under'⟩
  exact List.inj_on_of_nodup_map distinct member member'
    ((of_decide_eq_true under).trans (of_decide_eq_true under').symm)

theorem findKey?_of_perm (distinct : HasDistinctKeys report)
    (perm : (scoreLines report).Perm (scoreLines other)) (key : ScoreKey) :
    (ofReport report).findKey? key = (ofReport other).findKey? key := by
  have scores : (ofReport report).scores.Perm (ofReport other).scores := by
    rw [scores_eq_filterMap_scoreLines, scores_eq_filterMap_scoreLines]
    exact perm.filterMap _
  rw [findKey?_eq, findKey?_eq,
    List.find?_eq_find?_of_perm scores (subsingleton_of_nodup (nodup_map_key distinct) key)]

/-- Of scores with different keys each is found under its own. -/
theorem findKey?_of_mem {summary : Summary} {s : Score}
    (distinct : (summary.scores.map Score.key).Nodup) (member : s ∈ summary.scores) :
    summary.findKey? s.key = some s.value := by
  rw [findKey?_eq]
  cases found : summary.scores.find? fun score => score.key = s.key with
  | none =>
    have absent := List.find?_eq_none.1 found s member
    simp at absent
  | some s' =>
    have under : decide (s'.key = s.key) = true := by simpa using List.find?_some found
    have same : s' = s := subsingleton_of_nodup distinct s.key
      ⟨List.mem_of_find?_eq_some found, under⟩ ⟨member, decide_eq_true rfl⟩
    rw [same, Option.map_some]

end Order

/-! ### The standard table -/

section Table

open FiniteBinary64 (unitsPerOne)

variable {value : Headline → SpelledNumber} {texts : List (List Char)}

/-- A headline's row of the standard table. -/
def Headline.entry (h : Headline) (value : SpelledNumber) : TableEntry :=
  ⟨h.key.kind, h.key.threshold.toList, h.key.area.toList, h.key.maxDetections, value⟩

/-- Texts that make up the standard table: a row for each headline with its value, in any
order and with any padding, among other lines. -/
structure IsStandardTable (value : Headline → SpelledNumber) (texts : List (List Char)) :
    Prop where
  rows : ∃ sources : List (Option TableEntry), List.Forall₂ TableEntry.IsLine sources texts ∧
    sources.reduceOption.Perm (Headline.all.map fun h => h.entry (value h))
  single : ∀ text ∈ texts, '\n' ∉ text

theorem key_of_readsAs {h : Headline} {n : SpelledNumber} {score : Score}
    (reads : (h.entry n).ReadsAs score) : score.key = h.key := by
  rw [Score.key, reads.kind, reads.threshold, reads.area, reads.limit]
  simp only [Headline.entry, String.ofList_toList]

/-- The scores of the standard table, brought into the order of the headlines. -/
theorem exists_scores_perm (table : IsStandardTable value texts) :
    ∃ scores, List.Forall₂ (fun (h : Headline) score => (h.entry (value h)).ReadsAs score)
        Headline.all scores ∧
      scores.Perm (ofReport (['\n'].intercalate texts)).scores := by
  obtain ⟨sources, lines, perm⟩ := table.rows
  have read : List.Forall₂ TableEntry.ReadsAs sources.reduceOption
      (ofReport (['\n'].intercalate texts)).scores := by
    rw [scores_intercalate table.single]
    exact List.rel_filterMap (fun _ _ line => TableEntry.IsLine.reads line) lines
  have either : Relation.Comp List.Perm (List.Forall₂ TableEntry.ReadsAs)
      (Headline.all.map fun h => h.entry (value h)) _ := ⟨_, perm.symm, read⟩
  rw [← List.forall₂_comp_perm_eq_perm_comp_forall₂] at either
  obtain ⟨scores, read, perm⟩ := either
  exact ⟨scores, List.forall₂_map_left_iff.1 read, perm⟩

/-- The standard table gives each headline the value of its own row. -/
theorem exists_headline?_of_isStandardTable (table : IsStandardTable value texts) (h : Headline) :
    ∃ x, (ofReport (['\n'].intercalate texts)).headline? h = some x ∧
      x.IsNearest (value h).negative (unitsPerOne * (value h).magnitude) := by
  obtain ⟨scores, read, perm⟩ := exists_scores_perm table
  have keys : scores.map Score.key = Headline.all.map Headline.key := by
    rw [← List.forall₂_eq_eq_eq, List.forall₂_map_left_iff, List.forall₂_map_right_iff]
    exact (read.imp fun _ _ => key_of_readsAs).flip
  have distinct : ((ofReport (['\n'].intercalate texts)).scores.map Score.key).Nodup :=
    (perm.map Score.key).nodup_iff.1 (keys ▸ Headline.nodup_map_key)
  obtain ⟨score, member, reads⟩ := Traversal.exists_mem_of_forall₂ read.flip h.mem_all
  refine ⟨score.value, ?_, reads.value⟩
  rw [headline?_eq, ← key_of_readsAs reads]
  exact findKey?_of_mem distinct (perm.subset member)

/-! ### The table as it is printed -/

/-- A numeral in ASCII digits. -/
structure IsAscii (n : SpelledNumber) : Prop where
  whole_ne_nil : n.whole ≠ []
  isDigit : ∀ c ∈ n.whole ++ n.fraction, c.isDigit

def spaces (n : ℕ) : List Char := List.replicate n ' '

theorem blank_spaces (n : ℕ) : Blank (spaces n) := fun _ member =>
  (List.eq_of_mem_replicate member).symm ▸ (by decide)

namespace Headline

/-- The long name has eighteen columns. -/
def headPadding (h : Headline) : HeadPadding :=
  ⟨spaces 1, spaces (11 - h.key.kind.word.length), spaces 1, spaces 1⟩

/-- The threshold has nine columns, the area six and the limit three. -/
def endingPadding (h : Headline) : EndingPadding where
  afterThreshold := spaces (10 - h.key.threshold.length)
  afterBar := spaces 1
  afterAreaKey := spaces (6 - h.key.area.length)
  afterArea := spaces 1
  afterSecondBar := spaces 1
  afterLimitKey := spaces (3 - (Nat.toDigits 10 h.key.maxDetections.toNat).length)
  afterLimit := spaces 1
  afterClosing := spaces 1
  afterEquals := spaces 1

/-- A headline's row as it is printed. -/
def line (h : Headline) (value : SpelledNumber) : List Char :=
  (h.entry value).row.spell h.key.kind h.headPadding h.endingPadding

example : Headline.arSmall.line ⟨true, ['1'], ['0', '0', '0']⟩ =
    " Average Recall     (AR) @[ IoU=0.50:0.95 | area= small | maxDets=100 ] = -1.000".toList := by
  decide +kernel

variable {n : SpelledNumber}

theorem isWellFormed_entry (h : Headline) (ascii : IsAscii n) : (h.entry n).IsWellFormed where
  threshold_ne_nil := by
    show h.key.threshold.toList ≠ []
    cases h <;> decide
  threshold c member := by
    have solid : h.key.threshold.toList.all fun c => !isBlank c && c != '|' := by
      cases h <;> decide +kernel
    simpa using List.all_eq_true.1 solid c member
  area_ne_nil := by
    show h.key.area.toList ≠ []
    cases h <;> decide
  area := by
    have solid : h.key.area.toList.all isWord := by cases h <;> decide +kernel
    exact List.all_eq_true.1 solid
  whole_ne_nil := ascii.whole_ne_nil
  value := ascii.isDigit

theorem isBlank_headPadding (h : Headline) : h.headPadding.IsBlank where
  start := blank_spaces 1
  afterWord_ne_nil := by cases h <;> decide
  afterWord := blank_spaces _
  afterKind_ne_nil := List.cons_ne_nil _ _
  afterKind := blank_spaces 1
  afterBracket := blank_spaces 1

theorem isBlank_endingPadding (h : Headline) : h.endingPadding.IsBlank :=
  ⟨blank_spaces _, blank_spaces 1, blank_spaces _, blank_spaces 1, blank_spaces 1, blank_spaces _,
    blank_spaces 1, blank_spaces 1, blank_spaces 1⟩

theorem isLine_line (h : Headline) (ascii : IsAscii n) :
    TableEntry.IsLine (some (h.entry n)) (h.line n) := by
  rw [← List.append_nil (h.line n)]
  exact .row (h.isWellFormed_entry ascii) h.isBlank_headPadding h.isBlank_endingPadding
    (List.forall_mem_nil _)

theorem lineFeed_not_mem_line (h : Headline) (ascii : IsAscii n) : '\n' ∉ h.line n := by
  have numeral : '\n' ∉ n.text := SpelledNumber.not_mem_text
    (h.isWellFormed_entry ascii).isNumeral (by decide) (by decide) (by decide)
  have rest : '\n' ∉ ScoreRow.spellHead h.key.kind h.headPadding h.key.kind ++
      (h.key.threshold.toList ++ ScoreRow.spellEnding h.endingPadding h.key.area.toList
        (Nat.toDigits 10 h.key.maxDetections.toNat)) := by
    cases h <;> decide +kernel
  simp only [line, ScoreRow.spell, List.mem_append, not_or] at rest ⊢
  exact ⟨rest.1, rest.2.1, rest.2.2, numeral⟩

end Headline

theorem isStandardTable_map_line {order : List Headline} (ascii : ∀ h, IsAscii (value h))
    (perm : order.Perm Headline.all) :
    IsStandardTable value (order.map fun h => h.line (value h)) where
  rows := by
    refine ⟨order.map fun h => some (h.entry (value h)), ?_, ?_⟩
    · rw [List.forall₂_map_left_iff, List.forall₂_map_right_iff, List.forall₂_same]
      exact fun h _ => h.isLine_line (ascii h)
    · have some : (order.map fun h => some (h.entry (value h))).reduceOption =
          order.map fun h => h.entry (value h) := by
        show (order.map _).filterMap id = _
        rw [List.filterMap_map]
        exact congrFun List.filterMap_eq_map order
      rw [some]
      exact perm.map _
  single := List.forall_mem_map.2 fun h _ => h.lineFeed_not_mem_line (ascii h)

/-- In a report whose lines have different keys the order of the lines does not matter, nor
do lines without a score. In any report a headline is the value of the first line under its
key, or nothing if no line is under it, and no line counts for two headlines. So the
standard table, in any order, with any values and among other lines, gives each headline
the value of its own row. -/
theorem headlines_of_reports :
    (∀ report other, HasDistinctKeys report → (scoreLines report).Perm (scoreLines other) →
      (∀ kind threshold area limit, (ofReport report).find? kind threshold area limit =
        (ofReport other).find? kind threshold area limit) ∧
      ∀ h, (ofReport report).headline? h = (ofReport other).headline? h) ∧
    (∀ report h,
      (∀ x, (ofReport report).headline? h = some x ↔
        ∃ before line, FirstUnder report h.key before line x) ∧
      ((ofReport report).headline? h = none ↔
        ∀ line ∈ Text.lines report, ∀ y, Score.ofLine? line ≠ some (h.key.score y))) ∧
    (∀ report h h' before line x y, FirstUnder report (Headline.key h) before line x →
      FirstUnder report (Headline.key h') before line y → h = h') ∧
    (∀ value texts, IsStandardTable value texts → ∀ h, ∃ x,
      (ofReport (['\n'].intercalate texts)).headline? h = some x ∧
        x.IsNearest (value h).negative (unitsPerOne * (value h).magnitude)) ∧
    ∀ value (order : List Headline), (∀ h, IsAscii (value h)) → order.Perm Headline.all →
      IsStandardTable value (order.map fun h => h.line (value h)) := by
  refine ⟨fun report other distinct perm => ?_, fun report h => ?_, ?_, ?_, ?_⟩
  · have same := findKey?_of_perm distinct perm
    refine ⟨fun kind threshold area limit => same ⟨kind, threshold, area, limit⟩, fun h => ?_⟩
    rw [headline?_eq, headline?_eq, same]
  · rw [headline?_eq]
    exact ⟨fun x => findKey?_eq_some_iff, findKey?_eq_none_iff⟩
  · exact fun report h h' before line x y first first' =>
      Headline.key_injective (first.key_eq first')
  · exact fun value texts table => exists_headline?_of_isStandardTable table
  · exact fun value order => isStandardTable_map_line

/-- Two rows with a message between them. -/
def sampleReport : List Char := ['\n'].intercalate
  [Headline.ap50.line ⟨false, ['0'], ['5', '6', '1']⟩, "DONE (t=1.02s).".toList,
    Headline.arLarge.line ⟨true, ['1'], ['0', '0', '0']⟩]

/-- The same rows the other way round. -/
def turnedReport : List Char := ['\n'].intercalate
  [Headline.arLarge.line ⟨true, ['1'], ['0', '0', '0']⟩,
    Headline.ap50.line ⟨false, ['0'], ['5', '6', '1']⟩]

theorem headlines_of_sampleReport :
    HasDistinctKeys sampleReport ∧ (scoreLines sampleReport).Perm (scoreLines turnedReport) ∧
      (ofReport turnedReport).headline? .ap50 = some (Decimal.nearest ⟨false, 561, -3⟩) ∧
      (ofReport turnedReport).headline? .ap75 = none ∧
      IsStandardTable (fun _ => ⟨true, ['1'], ['0', '0', '0']⟩)
        (Headline.all.reverse.map fun h => h.line ⟨true, ['1'], ['0', '0', '0']⟩) := by
  have lines : scoreLines sampleReport = [Headline.ap50.line ⟨false, ['0'], ['5', '6', '1']⟩,
      Headline.arLarge.line ⟨true, ['1'], ['0', '0', '0']⟩] := by decide +kernel
  have distinct : HasDistinctKeys sampleReport := by
    rw [HasDistinctKeys, lines, List.pairwise_pair]
    intro s s' gives gives' same
    have apart : (Score.ofLine? (Headline.ap50.line ⟨false, ['0'], ['5', '6', '1']⟩)).map Score.key ≠
        (Score.ofLine? (Headline.arLarge.line ⟨true, ['1'], ['0', '0', '0']⟩)).map Score.key := by
      decide +kernel
    rw [gives, gives', Option.map_some, Option.map_some, same] at apart
    exact apart rfl
  have perm : (scoreLines sampleReport).Perm (scoreLines turnedReport) := by decide +kernel
  obtain ⟨-, same⟩ := headlines_of_reports.1 _ _ distinct perm
  exact ⟨distinct, perm, (same .ap50).symm.trans (by decide +kernel),
    (same .ap75).symm.trans (by decide +kernel),
    headlines_of_reports.2.2.2.2 _ _ (fun _ => ⟨by decide, List.all_eq_true.1 (by decide)⟩)
      (List.reverse_perm _)⟩

end Table

end Summary

end DetectionMerge
