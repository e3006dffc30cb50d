import DetectionMerge.Evaluation.Program
import DetectionMerge.Proofs.Text.LastLine
import DetectionMerge.Proofs.Text.LossyDecoding

/-! Why an evaluator is missing, by the error output of its probe. The reason is the last
line of the output that is not blank, so it has a text on one line, and white space that
the program writes behind it does not matter. -/

namespace DetectionMerge.Evaluation

open Text

variable {errors : List UInt8}

/-- The last words of an error output: what follows the last line feed when the white
space at its end is gone. -/
def lastWords (errors : List UInt8) : String :=
  let text := Utf8.decodeLossy errors
  if Blank text then "import failed" else String.ofList (trim (lastLine (trimRight text)))

theorem failureReason_eq (errors : List UInt8) : failureReason errors = lastWords errors := by
  have found := map_trim_find?_lines (Utf8.decodeLossy errors)
  rw [failureReason, lastWords]
  split
  · next line last =>
    rw [last, Option.map_some] at found
    split_ifs at found with blank
    rw [if_neg blank, Option.some.inj found]
  · next none =>
    rw [none, Option.map_none] at found
    split_ifs at found with blank
    rw [if_pos blank]

/-- The last line of a text that is not blank is not blank. -/
theorem trim_lastLine_ne_nil {text : List Char} (solid : ¬Blank text) :
    trim (lastLine (trimRight text)) ≠ [] := by
  have found := map_trim_find?_lines text
  rw [if_neg solid, Option.map_eq_some_iff] at found
  obtain ⟨line, found, same⟩ := found
  rw [← same, Ne, trim_eq_nil_iff]
  intro blank
  have some := List.find?_some found
  rw [List.all_eq_true.2 blank] at some
  cases some

theorem lastWords_ne_empty (errors : List UInt8) : lastWords errors ≠ "" := by
  rw [lastWords]
  split_ifs with blank
  · decide
  · exact fun empty => trim_lastLine_ne_nil blank (String.ofList_injective empty)

theorem lineFeed_not_mem_lastWords (errors : List UInt8) :
    '\n' ∉ (lastWords errors).toList := by
  rw [lastWords]
  split_ifs
  · decide
  · rw [String.toList_ofList]
    exact fun member => not_mem_lastLine _ (trim_subset _ member)

theorem isTrimmed_lastWords (errors : List UInt8) : IsTrimmed (lastWords errors).toList := by
  rw [lastWords]
  split_ifs
  · have same : trim "import failed".toList = "import failed".toList := by decide +kernel
    rw [← same]
    exact isTrimmed_trim _
  · rw [String.toList_ofList]
    exact isTrimmed_trim _

/-- White space at the end of the output does not matter. -/
theorem lastWords_append {pad : List Char} (blank : Blank pad) :
    lastWords (errors ++ Utf8.encode pad) = lastWords errors := by
  rw [lastWords, Utf8.decodeLossy_append_encode, trimRight_append blank,
    if_congr (blank_append.trans (and_iff_left blank)) rfl rfl]
  rfl

/-- The program of a probe starts, writes this error output and fails. -/
def FailsWith (program : String) (host : Host) (errors : List UInt8) : Prop :=
  ∃ status output, status ≠ 0 ∧
    (host.start (probeLaunch program)).1 = .ok ⟨status, output, errors⟩

theorem probe_of_failsWith {program : String} {host : Host} (fails : FailsWith program host errors) :
    ((ofProgram program).probe host).result =
      .error (.missing libraryName (lastWords errors)) := by
  obtain ⟨status, output, failed, ended⟩ := fails
  have result : ((ofProgram program).probe host).result =
      probeResult program (host.start (probeLaunch program)).1 := rfl
  rw [result, ended, probeResult, if_neg failed, failureReason_eq]

/-- A probe that starts and fails gives a reason: the last words of its error output,
which are some text on one line without white space around it. Any white space at the
end of the output leaves the reason as it is. -/
theorem reason_of_failsWith {program : String} {host : Host}
    (fails : FailsWith program host errors) :
    ∃ reason, ((ofProgram program).probe host).result = .error (.missing libraryName reason) ∧
      reason = lastWords errors ∧ reason ≠ "" ∧ '\n' ∉ reason.toList ∧
      IsTrimmed reason.toList ∧
      ∀ pad, Blank pad → ∀ host', FailsWith program host' (errors ++ Utf8.encode pad) →
        ((ofProgram program).probe host').result = .error (.missing libraryName reason) := by
  refine ⟨_, probe_of_failsWith fails, rfl, lastWords_ne_empty errors,
    lineFeed_not_mem_lastWords errors, isTrimmed_lastWords errors, fun pad blank host' fails' => ?_⟩
  rw [probe_of_failsWith fails', lastWords_append blank]

/-- A machine whose programs all fail with the same error output. -/
def failing (errors : List UInt8) : Host where
  disk := .blank "work"
  launcher _ disk := (.ok ⟨1, [], errors⟩, disk)

/-- A complaint that breaks off inside a character, before a line of exotic white space. -/
def brokenErrors : List UInt8 :=
  Utf8.encode "Traceback:\r\n  No module named caf".toList ++ [0xC3] ++
    Utf8.encode "\r\n\u2028\u00A0".toList

theorem reason_of_brokenErrors :
    FailsWith "python3" (failing brokenErrors) brokenErrors ∧
      ((ofProgram "python3").probe (failing brokenErrors)).result =
        .error (.missing "pycocotools" "No module named caf\uFFFD") := by
  have fails : FailsWith "python3" (failing brokenErrors) brokenErrors := ⟨1, [], by decide, rfl⟩
  obtain ⟨reason, result, words, -⟩ := reason_of_failsWith fails
  have read : lastWords brokenErrors = "No module named caf\uFFFD" := by decide +kernel
  exact ⟨fails, by rw [result, words, read, libraryName]⟩

end DetectionMerge.Evaluation
