import DetectionMerge.Text.Blank
import DetectionMerge.Text.Digit
import DetectionMerge.Text.Word
import Mathlib.Data.List.TakeWhile
import Mathlib.Tactic

/-! White space, word characters and digits. White space is neither of the others,
so a reader that skips it never skips a part of a word or a number. -/

namespace DetectionMerge.Text

/-! ### Classes without a common character -/

/-- No range of one table meets a range of the other. -/
def Apart (a b : List CodeRange) : Bool := a.all fun r => b.all fun s => r.2 < s.1 || s.2 < r.1

theorem inRanges_eq_false_of_apart {a b : List CodeRange} (apart : Apart a b) {c : Char}
    (h : inRanges a c) : inRanges b c = false := by
  obtain ⟨r, memberA, within⟩ := List.any_eq_true.1 h
  rw [inRanges, List.any_eq_false]
  intro s memberB
  have disjoint := List.all_eq_true.1 (List.all_eq_true.1 apart r memberA) s memberB
  simp only [Bool.or_eq_true, decide_eq_true_eq] at disjoint within ⊢
  omega

theorem isBlank_of_isWord {c : Char} (h : isWord c) : isBlank c = false :=
  inRanges_eq_false_of_apart (show Apart wordRanges blankRanges by decide +kernel) h

theorem isBlank_of_isDigit {c : Char} (h : isDigit c) : isBlank c = false :=
  inRanges_eq_false_of_apart (show Apart digitRanges blankRanges by decide +kernel) h

/-! ### ASCII digits -/

theorem asciiDigit?_eq_some_iff {c : Char} {d : ℕ} :
    asciiDigit? c = some d ↔ c.isDigit ∧ c.toNat - '0'.toNat = d := by
  have same : '0' ≤ c ∧ c ≤ '9' ↔ c.isDigit := by
    rw [Char.isDigit_iff_toNat]
    exact Iff.rfl
  simp only [asciiDigit?, same, Option.ite_none_right_eq_some, Option.some.injEq]
  rfl

theorem asciiDigit?_of_isDigit {c : Char} (h : c.isDigit) :
    asciiDigit? c = some (c.toNat - '0'.toNat) :=
  asciiDigit?_eq_some_iff.2 ⟨h, rfl⟩

theorem isDigit_toDigits (n : ℕ) : ∀ c ∈ Nat.toDigits 10 n, c.isDigit :=
  fun _ => Nat.isDigit_of_mem_toDigits (by norm_num) (by norm_num)

/-! ### Skipping white space -/

/-- A text of white space. -/
def Blank (cs : List Char) : Prop := ∀ c ∈ cs, isBlank c

instance (cs : List Char) : Decidable (Blank cs) := List.decidableBAll _ cs

variable {pad cs : List Char} {c : Char}

theorem blank_cons : Blank (c :: cs) ↔ isBlank c ∧ Blank cs := List.forall_mem_cons

theorem blank_append {ds : List Char} : Blank (cs ++ ds) ↔ Blank cs ∧ Blank ds :=
  List.forall_mem_append

theorem trimLeft_append (blank : Blank pad) : trimLeft (pad ++ cs) = trimLeft cs :=
  List.dropWhile_append_of_pos blank

theorem trimLeft_cons (solid : isBlank c = false) : trimLeft (c :: cs) = c :: cs :=
  List.dropWhile_cons_of_neg (by simp [solid])

theorem exists_eq_append_trimLeft (cs : List Char) : ∃ pad, Blank pad ∧ cs = pad ++ trimLeft cs :=
  ⟨cs.takeWhile isBlank, fun _ member => List.mem_takeWhile_imp member,
    (List.takeWhile_append_dropWhile).symm⟩

end DetectionMerge.Text
