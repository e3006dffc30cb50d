import DetectionMerge.Proofs.Text.Classes
import DetectionMerge.Proofs.Text.Lines
import Mathlib.Data.List.DropRight

/-! The last line of a text that is not blank. It is what follows the last line feed
once the white space at the end of the text is gone, up to white space around it. -/

namespace DetectionMerge.Text

/-! ### Trimming -/

variable {pad cs ds : List Char}

theorem trimLeft_eq_nil_iff : trimLeft cs = [] ↔ Blank cs := List.dropWhile_eq_nil_iff

theorem trimRight_eq_nil_iff : trimRight cs = [] ↔ Blank cs := List.rdropWhile_eq_nil_iff

theorem trimRight_append (blank : Blank pad) : trimRight (cs ++ pad) = trimRight cs := by
  rw [trimRight, List.reverse_append,
    trimLeft_append fun c member => blank c (List.mem_reverse.1 member), trimRight]

theorem trimRight_append_of_not_blank (solid : ¬Blank ds) :
    trimRight (cs ++ ds) = cs ++ trimRight ds := by
  have nonempty : trimLeft ds.reverse ≠ [] := fun empty => solid
    (trimRight_eq_nil_iff.1 (congrArg List.reverse empty))
  rw [trimRight, trimLeft, List.reverse_append, List.dropWhile_append,
    if_neg (by simpa [trimLeft] using nonempty), List.reverse_append, List.reverse_reverse]
  rfl

theorem exists_eq_trimRight_append (cs : List Char) : ∃ pad, Blank pad ∧ cs = trimRight cs ++ pad :=
  ⟨cs.rtakeWhile isBlank, fun _ => List.mem_rtakeWhile_imp,
    List.rdropWhile_append_rtakeWhile.symm⟩

theorem trim_append (blank : Blank pad) : trim (cs ++ pad) = trim cs := by
  by_cases empty : Blank cs
  · rw [trim, trimLeft_append empty, trimLeft_eq_nil_iff.2 blank, trim, trimLeft_eq_nil_iff.2 empty]
  · have nonempty : trimLeft cs ≠ [] := empty ∘ trimLeft_eq_nil_iff.1
    rw [trim, trimLeft, List.dropWhile_append, if_neg (by simpa [trimLeft] using nonempty)]
    exact trimRight_append blank

theorem trim_trimRight (cs : List Char) : trim (trimRight cs) = trim cs := by
  obtain ⟨pad, blank, split⟩ := exists_eq_trimRight_append cs
  conv_rhs => rw [split, trim_append blank]

theorem trim_eq_nil_iff : trim cs = [] ↔ Blank cs := by
  obtain ⟨pad, blank, split⟩ := exists_eq_append_trimLeft cs
  rw [trim, trimRight_eq_nil_iff]
  conv_rhs => rw [split, blank_append, and_iff_right blank]

theorem trim_subset (cs : List Char) : trim cs ⊆ cs := fun _ member =>
  (List.dropWhile_suffix isBlank).subset
    ((List.rdropWhile_prefix isBlank (trimLeft cs)).subset member)

/-- A text that neither starts nor ends with white space. -/
structure IsTrimmed (cs : List Char) : Prop where
  start : ∀ c ∈ cs.head?, isBlank c = false
  finish : ∀ c ∈ cs.getLast?, isBlank c = false

theorem isTrimmed_trim (cs : List Char) : IsTrimmed (trim cs) where
  start c member := by
    obtain ⟨pad, -, split⟩ := exists_eq_trimRight_append (trimLeft cs)
    have first : (trimLeft cs).head? = some c := by
      rw [split, List.head?_append, show (trimRight (trimLeft cs)).head? = some c from member,
        Option.some_or]
    have solid := List.head?_dropWhile_not isBlank cs
    rwa [show (cs.dropWhile isBlank).head? = some c from first] at solid
  finish c member := by
    obtain ⟨rest, split⟩ := List.getLast?_eq_some_iff.1 member
    have nonempty : trim cs ≠ [] := by simp [split]
    have last := List.rdropWhile_last_not isBlank (trimLeft cs) nonempty
    simpa [← show trim cs = (trimLeft cs).rdropWhile isBlank from rfl, split] using last

/-! ### The last line -/

variable {text first line : List Char}

/-- The text after the last line feed. -/
def lastLine (text : List Char) : List Char := text.rtakeWhile (· ≠ '\n')

theorem lastLine_of_not_mem (single : '\n' ∉ text) : lastLine text = text :=
  List.rtakeWhile_eq_self_iff.2 fun c member => by
    simpa using fun same : c = '\n' => single (same ▸ member)

theorem lastLine_append_cons (before rest : List Char) :
    lastLine (before ++ '\n' :: rest) = lastLine rest := by
  induction rest using List.reverseRecOn with
  | nil => simp [lastLine]
  | append_singleton rest c ih =>
    rw [← List.cons_append, ← List.append_assoc, lastLine, lastLine, List.rtakeWhile_concat,
      List.rtakeWhile_concat]
    exact if_congr Iff.rfl (congrArg (· ++ [c]) ih) rfl

theorem not_mem_lastLine (text : List Char) : '\n' ∉ lastLine text :=
  fun member => by simpa using List.mem_rtakeWhile_imp member

/-- Of a single line only its blanks matter. -/
theorem map_trim_find?_singleton (same : trim line = trim first)
    (single : '\n' ∉ first) :
    ([line].find? fun line => !line.all isBlank).map trim =
      if Blank first then none else some (trim (lastLine (trimRight first))) := by
  have kept : '\n' ∉ trimRight first :=
    fun member => single ((List.rdropWhile_prefix isBlank first).subset member)
  rw [lastLine_of_not_mem kept, trim_trimRight, ← same]
  by_cases blank : Blank first
  · have empty : Blank line := trim_eq_nil_iff.1 (same.trans (trim_eq_nil_iff.2 blank))
    rw [if_pos blank, List.find?_singleton, if_neg (by simpa using List.all_eq_true.2 empty),
      Option.map_none]
  · have solid : line.all isBlank = false := Bool.eq_false_iff.2 fun empty =>
      blank (trim_eq_nil_iff.1 (same.symm.trans (trim_eq_nil_iff.2 (List.all_eq_true.1 empty))))
    rw [if_neg blank, List.find?_singleton, if_pos (by rw [solid]; rfl), Option.map_some]

/-- The last line that is not blank is the last line of the text without its trailing
white space. -/
theorem map_trim_find?_lines (text : List Char) :
    ((lines text).reverse.find? fun line => !line.all isBlank).map trim =
      if Blank text then none else some (trim (lastLine (trimRight text))) := by
  by_cases fed : '\n' ∈ text
  · obtain ⟨first, rest, rfl, single⟩ := List.eq_append_cons_of_mem fed
    obtain ⟨line, ended, split⟩ := exists_lines_append single rest
    have same : trim line = trim first := by
      obtain rfl | rfl := ended
      · rfl
      · exact (trim_append (by decide)).symm
    have feed : isBlank '\n' := by decide
    rw [split, List.reverse_cons, List.find?_append, Option.map_or, map_trim_find?_lines rest,
      map_trim_find?_singleton same single]
    by_cases empty : Blank rest
    · have ending : Blank ('\n' :: rest) := blank_cons.2 ⟨feed, empty⟩
      rw [if_pos empty, Option.none_or, trimRight_append ending,
        if_congr (blank_append.trans (and_iff_left ending)) rfl rfl]
    · have solid : ¬Blank ('\n' :: rest) := fun blank => empty (blank_cons.1 blank).2
      rw [if_neg empty, Option.some_or, if_neg fun blank => solid (blank_append.1 blank).2,
        trimRight_append_of_not_blank solid, ← List.singleton_append,
        trimRight_append_of_not_blank empty, List.singleton_append, lastLine_append_cons]
  · by_cases empty : text = []
    · subst empty
      rfl
    · rw [lines_of_not_mem fed empty, List.reverse_singleton, map_trim_find?_singleton rfl fed]
termination_by text.length

end DetectionMerge.Text
