import DetectionMerge.Evaluation.Program
import DetectionMerge.Proofs.Scores.Lines
import DetectionMerge.Proofs.Text.LossyDecoding

/-! What becomes of the bytes that an evaluator's program prints. The scores are those of
the lines of bytes, each decoded and read on its own, so bytes that are not text spoil at
most the line they are on. A report of valid bytes is handed on as it was printed. -/

namespace DetectionMerge.Evaluation

open Text

/-! ### The scores in printed bytes -/

/-- The scores that are read from the bytes of a program. -/
def printedScores (output : List UInt8) : List Score :=
  (Summary.ofReport (Utf8.decodeLossy output)).scores

/-- Bytes with carriage returns before their line feeds. -/
def withReturns (output : List UInt8) : List UInt8 :=
  output.flatMap fun b => if b = 0x0A then [0x0D, 0x0A] else [b]

theorem printedScores_intercalate {lines : List (List UInt8)}
    (single : ∀ line ∈ lines, (0x0A : UInt8) ∉ line) :
    printedScores ([0x0A].intercalate lines) =
      lines.filterMap fun line => Score.ofLine? (Utf8.decodeLossy line) := by
  rw [printedScores, Utf8.decodeLossy_intercalate, Summary.scores_intercalate, List.filterMap_map]
  · rfl
  · exact List.forall_mem_map.2 fun line member =>
      Utf8.lineFeed_not_mem_decodeLossy (single line member)

theorem printedScores_line {line : List UInt8} (single : (0x0A : UInt8) ∉ line) :
    printedScores line = (Score.ofLine? (Utf8.decodeLossy line)).toList := by
  have alone := printedScores_intercalate (List.forall_mem_singleton.2 single)
  rw [List.intercalate_singleton] at alone
  rw [alone, List.filterMap_cons, List.filterMap_nil]
  cases Score.ofLine? (Utf8.decodeLossy line) <;> rfl

theorem printedScores_lines {lines : List (List UInt8)}
    (single : ∀ line ∈ lines, (0x0A : UInt8) ∉ line) :
    printedScores ([0x0A].intercalate lines) = lines.flatMap printedScores := by
  rw [printedScores_intercalate single, List.filterMap_eq_flatMap_toList]
  exact List.flatMap_congr fun line member => (printedScores_line (single line member)).symm

/-- No part of a list cut at its line feeds has one. -/
theorem lineFeed_not_mem_of_mem_splitOn {output line : List UInt8}
    (member : line ∈ output.splitOn 0x0A) : (0x0A : UInt8) ∉ line := by
  induction output generalizing line with
  | nil =>
    rw [List.splitOn_nil, List.mem_singleton] at member
    exact member ▸ List.not_mem_nil
  | cons b output ih =>
    rw [List.splitOn_cons_eq_if_modifyHead] at member
    obtain ⟨first, lines, cut⟩ := List.exists_cons_of_ne_nil (List.splitOn_ne_nil 0x0A output)
    rw [cut] at ih member
    split_ifs at member with feed
    · obtain rfl | member := List.mem_cons.1 member
      · exact List.not_mem_nil
      · exact ih member
    · rw [List.modifyHead_cons] at member
      obtain rfl | member := List.mem_cons.1 member
      · rw [List.mem_cons, not_or]
        exact ⟨fun same => feed (beq_iff_eq.2 same.symm), ih List.mem_cons_self⟩
      · exact ih (List.mem_cons_of_mem _ member)

theorem printedScores_splitOn (output : List UInt8) :
    printedScores output = (output.splitOn 0x0A).flatMap printedScores := by
  rw [← printedScores_lines fun _ => lineFeed_not_mem_of_mem_splitOn, List.intercalate_splitOn]

/-- Output that a line feed divides gives the scores of its parts. -/
theorem printedScores_append (first second : List UInt8) :
    printedScores (first ++ 0x0A :: second) = printedScores first ++ printedScores second := by
  rw [printedScores_splitOn (first ++ _), printedScores_splitOn first,
    printedScores_splitOn second, ← List.flatMap_append]
  exact congrArg _ (List.splitOnP_append_cons first second (beq_self_eq_true 0x0A))

/-! ### Carriage returns -/

theorem withReturns_of_not_mem {line : List UInt8} (single : (0x0A : UInt8) ∉ line) :
    withReturns line = line := by
  have unchanged : withReturns line = line.flatMap List.singleton :=
    List.flatMap_congr fun b member => if_neg fun same : b = 0x0A => single (same ▸ member)
  exact unchanged.trans (List.flatMap_singleton' line)

theorem withReturns_append_cons (first second : List UInt8) :
    withReturns (first ++ 0x0A :: second) =
      withReturns first ++ [0x0D] ++ 0x0A :: withReturns second := by
  simp [withReturns]

/-- A carriage return before the end of a line changes nothing. -/
theorem printedScores_append_return {line : List UInt8} (single : (0x0A : UInt8) ∉ line) :
    printedScores (line ++ [0x0D]) = printedScores line := by
  have longer : (0x0A : UInt8) ∉ line ++ [0x0D] := by simpa using single
  rw [printedScores_line longer, printedScores_line single,
    Utf8.decodeLossy_concat_ascii (by decide)]
  exact congrArg Option.toList (Score.ofLine?_append_return _)

theorem printedScores_withReturns (output : List UInt8) :
    printedScores (withReturns output) = printedScores output := by
  have single : ∀ line ∈ output.splitOn 0x0A, (0x0A : UInt8) ∉ line :=
    fun _ => lineFeed_not_mem_of_mem_splitOn
  have joined : [0x0A].intercalate (output.splitOn 0x0A) = output := List.intercalate_splitOn 0x0A
  rw [← joined]
  generalize output.splitOn 0x0A = lines at single ⊢
  induction lines with
  | nil => rfl
  | cons line lines ih =>
    obtain ⟨here, rest⟩ := List.forall_mem_cons.1 single
    cases lines with
    | nil => rw [List.intercalate_singleton, withReturns_of_not_mem here]
    | cons next lines =>
      rw [List.intercalate_cons_cons, List.append_assoc, List.singleton_append,
        withReturns_append_cons, withReturns_of_not_mem here, printedScores_append,
        printedScores_append, printedScores_append_return here, ih rest]

/-! ### Evaluations -/

/-- The program of an evaluation ends well after printing these bytes. -/
def Prints (program : String) (request : Request) (host : Host) (output : List UInt8) : Prop :=
  ∃ errors, (host.start (scoreLaunch program request)).1 = .ok ⟨0, output, errors⟩

variable {program : String} {request : Request} {host : Host} {output : List UInt8}

/-- An evaluation whose program ends well has a result, with the scores of what was
printed. Bytes of a text are its report. -/
theorem exists_score_of_prints (prints : Prints program request host output) :
    ∃ evaluated, ((ofProgram program).score request host).result = .ok evaluated ∧
      evaluated.summary.scores = printedScores output ∧
      ∀ text, output = Utf8.encode text → Utf8.encode evaluated.report.toList = output := by
  obtain ⟨errors, ended⟩ := prints
  refine ⟨.ofReport (Utf8.decodeLossy output), ?_, rfl, ?_⟩
  · have result : ((ofProgram program).score request host).result =
        scoreResult program (host.start (scoreLaunch program request)).1 := rfl
    rw [result, ended]
    rfl
  · rintro text rfl
    rw [Utf8.decodeLossy_encode, Evaluated.ofReport, String.toList_ofList]

/-- An evaluation whose program ends well has a result, whatever bytes were printed. Its
scores are those of the lines of bytes, each read on its own, so they are the scores
before a line, on it and after it, whatever stands on the line. Bytes that a line feed
divides give the scores of both parts, and carriage returns before the line feeds change
nothing. Bytes of a text come back unchanged as the report. -/
theorem scores_of_prints (prints : Prints program request host output) :
    (∃ evaluated, ((ofProgram program).score request host).result = .ok evaluated ∧
      evaluated.summary.scores = (output.splitOn 0x0A).flatMap printedScores ∧
      evaluated.summary.scores = printedScores output ∧
      ∀ text, output = Utf8.encode text → Utf8.encode evaluated.report.toList = output) ∧
    (∀ before line after, output.splitOn 0x0A = before ++ line :: after →
      ∀ other : List UInt8, 0x0A ∉ other →
        printedScores ([0x0A].intercalate (before ++ other :: after)) =
          before.flatMap printedScores ++ printedScores other ++ after.flatMap printedScores) ∧
    (∀ more, printedScores (output ++ 0x0A :: more) =
      printedScores output ++ printedScores more) ∧
    printedScores (withReturns output) = printedScores output := by
  refine ⟨?_, ?_, printedScores_append output, printedScores_withReturns output⟩
  · obtain ⟨evaluated, result, scores, report⟩ := exists_score_of_prints prints
    exact ⟨evaluated, result, scores.trans (printedScores_splitOn output), scores, report⟩
  · intro before line after cut other single
    have lines : ∀ line ∈ before ++ other :: after, (0x0A : UInt8) ∉ line := by
      have known : ∀ line ∈ output.splitOn 0x0A, (0x0A : UInt8) ∉ line :=
        fun _ => lineFeed_not_mem_of_mem_splitOn
      rw [cut] at known
      simp only [List.forall_mem_append, List.forall_mem_cons] at known ⊢
      exact ⟨known.1, single, known.2.2⟩
    rw [printedScores_lines lines, List.flatMap_append, List.flatMap_cons, List.append_assoc]

/-- A machine whose programs all end well after printing the same bytes. -/
def printer (output : List UInt8) : Host where
  disk := .blank "work"
  launcher _ disk := (.ok ⟨0, output, []⟩, disk)

/-- A row between two lines with only the first bytes of a character. -/
def brokenOutput : List UInt8 := [0xC3, 0x0A] ++ Utf8.encode sampleRow ++ [0x0A, 0xF0, 0x9F]

theorem scores_of_prints_brokenOutput :
    Prints "python3" ⟨⟨"gt.json"⟩, ⟨"out.json"⟩, [1], .box⟩ (printer brokenOutput) brokenOutput ∧
      ∃ evaluated, ((ofProgram "python3").score ⟨⟨"gt.json"⟩, ⟨"out.json"⟩, [1], .box⟩
          (printer brokenOutput)).result = .ok evaluated ∧
        evaluated.summary.scores =
          [⟨.averageRecall, "0.50:0.95", "small", 100, Decimal.nearest ⟨true, 1000, -3⟩⟩] := by
  have prints : Prints "python3" ⟨⟨"gt.json"⟩, ⟨"out.json"⟩, [1], .box⟩ (printer brokenOutput)
      brokenOutput := ⟨[], rfl⟩
  obtain ⟨⟨evaluated, result, scores, -⟩, -⟩ := scores_of_prints prints
  exact ⟨prints, evaluated, result, scores.trans (by decide +kernel)⟩

end DetectionMerge.Evaluation
