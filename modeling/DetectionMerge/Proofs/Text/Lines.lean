import DetectionMerge.Text.Lines
import Mathlib.Data.List.Forall2
import Mathlib.Tactic

/-! The lines of a text that has been put together from lines. A carriage return
at the end of a line is lost, and so is a last line that is empty. -/

namespace DetectionMerge.Text

variable {text : List Char}

/-- A line feed ends the line before it, with or without a carriage return. -/
theorem exists_lines_append (single : '\n' ∉ text) (rest : List Char) :
    ∃ line, (text = line ∨ text = line ++ ['\r']) ∧
      lines (text ++ '\n' :: rest) = line :: lines rest := by
  induction text with
  | nil => exact ⟨[], .inl rfl, by rw [List.nil_append, lines]⟩
  | cons c text ih =>
    rw [List.mem_cons, not_or] at single
    obtain ⟨other, single⟩ := single
    by_cases bare : c = '\r' ∧ text = []
    · obtain ⟨rfl, rfl⟩ := bare
      exact ⟨[], .inr rfl, by rw [List.singleton_append, lines]⟩
    · obtain ⟨line, ended, split⟩ := ih single
      refine ⟨c :: line, ended.imp (congrArg (c :: ·)) (congrArg (c :: ·)), ?_⟩
      rw [List.cons_append, lines, split]
      · intro more return_ fed
        refine bare ⟨return_, ?_⟩
        cases text with
        | nil => rfl
        | cons d text =>
          obtain ⟨rfl, -⟩ := List.cons.inj fed
          exact absurd List.mem_cons_self single
      · exact fun h => other h.symm

theorem lines_of_not_mem (single : '\n' ∉ text) (nonempty : text ≠ []) : lines text = [text] := by
  induction text with
  | nil => exact absurd rfl nonempty
  | cons c text ih =>
    rw [List.mem_cons, not_or] at single
    obtain ⟨other, single⟩ := single
    rw [lines]
    · by_cases last : text = []
      · rw [last, lines]
      · rw [ih single last]
    · rintro more - rfl
      exact single List.mem_cons_self
    · exact fun h => other h.symm

/-- What holds of the lines that are put together holds of the lines that are
read, if a lost carriage return does not matter. -/
theorem exists_lines_intercalate {α : Type} {R : α → List Char → Prop}
    (shorter : ∀ a line, R a (line ++ ['\r']) → R a line) {as : List α} {texts : List (List Char)}
    (holds : List.Forall₂ R as texts) (single : ∀ text ∈ texts, '\n' ∉ text) :
    ∃ read, List.Forall₂ R as read ∧ (lines (['\n'].intercalate texts) = read ∨
      lines (['\n'].intercalate texts) ++ [[]] = read) := by
  induction holds with
  | nil => exact ⟨[], .nil, .inl rfl⟩
  | @cons a text as texts first rest ih =>
    obtain ⟨unbroken, others⟩ := List.forall_mem_cons.1 single
    obtain ⟨read, holds, split⟩ := ih others
    cases texts with
    | nil =>
      refine ⟨[text], .cons first rest, ?_⟩
      rw [List.intercalate_singleton]
      by_cases empty : text = []
      · exact .inr (by rw [empty, lines, List.nil_append])
      · exact .inl (lines_of_not_mem unbroken empty)
    | cons next texts =>
      obtain ⟨line, ended, split'⟩ :=
        exists_lines_append unbroken (['\n'].intercalate (next :: texts))
      have first : R a line := by
        obtain rfl | rfl := ended
        · exact first
        · exact shorter a line first
      refine ⟨line :: read, .cons first holds, ?_⟩
      rw [List.intercalate_cons_cons, List.append_assoc, List.singleton_append, split']
      exact split.imp (congrArg (line :: ·)) (congrArg (line :: ·))

end DetectionMerge.Text
