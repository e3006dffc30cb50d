import DetectionMerge.Proofs.Scores.Table

/-! Reports put together from lines. A carriage return at the end of a line takes no part
in a row, which ends in a digit, and a line without characters gives nothing. So the
scores of a report are those of the texts between its line feeds. -/

namespace DetectionMerge

open Text

namespace ScoreRow

variable {line : List Char} {row : ScoreRow}

/-- A line has the readings that it has without a carriage return at its end. -/
theorem begins_append_return : Begins (line ++ ['\r']) row ↔ Begins line row := by
  constructor
  · rintro ⟨formed, word, head, ending, rest, blankHead, blankEnding, split⟩
    refine ⟨formed, word, head, ending, ?_⟩
    obtain rfl | ⟨rest, c, rfl⟩ := List.eq_nil_or_concat' rest
    · rw [List.append_nil] at split
      exact absurd (mem_text_of_concat formed.value split)
        (SpelledNumber.not_mem_text formed.value (by decide) (by decide) (by decide))
    · rw [← List.append_assoc] at split
      exact ⟨rest, blankHead, blankEnding, List.append_inj_left' split rfl⟩
  · rintro ⟨formed, word, head, ending, rest, blankHead, blankEnding, rfl⟩
    exact ⟨formed, word, head, ending, rest ++ ['\r'], blankHead, blankEnding,
      List.append_assoc _ _ _⟩

theorem preferred_append_return : Preferred (line ++ ['\r']) row ↔ Preferred line row := by
  constructor <;> rintro ⟨begins, threshold, value⟩
  · exact ⟨begins_append_return.1 begins,
      fun other h => threshold other (begins_append_return.2 h),
      fun other h => value other (begins_append_return.2 h)⟩
  · exact ⟨begins_append_return.2 begins,
      fun other h => threshold other (begins_append_return.1 h),
      fun other h => value other (begins_append_return.1 h)⟩

end ScoreRow

/-- A carriage return at the end of a line does not change what the line gives. -/
theorem Score.ofLine?_append_return (line : List Char) :
    Score.ofLine? (line ++ ['\r']) = Score.ofLine? line := by
  refine Score.ofLine?_of_yields ?_
  have yields := Score.yields_ofLine? line
  generalize Score.ofLine? line = found at yields ⊢
  cases yields with
  | score preferred readable means =>
    exact .score (ScoreRow.preferred_append_return.2 preferred) readable means
  | unreadable preferred unreadable =>
    exact .unreadable (ScoreRow.preferred_append_return.2 preferred) unreadable
  | nothing absent =>
    exact .nothing fun row begins => absent row (ScoreRow.begins_append_return.1 begins)

theorem Summary.scores_intercalate {texts : List (List Char)}
    (single : ∀ text ∈ texts, '\n' ∉ text) :
    (Summary.ofReport (['\n'].intercalate texts)).scores = texts.filterMap Score.ofLine? := by
  let Gives (found : Option Score) (line : List Char) : Prop := Score.ofLine? line = found
  have each : List.Forall₂ Gives (texts.map Score.ofLine?) texts := by
    rw [List.forall₂_map_left_iff, List.forall₂_same]
    exact fun _ _ => rfl
  have shorter (found : Option Score) (line : List Char) (gives : Gives found (line ++ ['\r'])) :
      Gives found line := (Score.ofLine?_append_return line).symm.trans gives
  obtain ⟨read, gives, split⟩ := exists_lines_intercalate shorter each single
  have found : read.map Score.ofLine? = texts.map Score.ofLine? := by
    rw [← List.forall₂_eq_eq_eq, List.forall₂_map_left_iff]
    exact gives.flip
  have same : read.filterMap Score.ofLine? = texts.filterMap Score.ofLine? := by
    have := congrArg (List.filterMap id) found
    simpa only [List.filterMap_map, Function.id_comp] using this
  rw [← same]
  obtain rfl | rfl := split
  · rfl
  · rw [List.filterMap_append]
    exact (List.append_nil _).symm

end DetectionMerge
