import DetectionMerge.Proofs.Json.Spelling

/-! Number literals. The same number can be written as an integer, with a fraction, with
an exponent and with a sign before zero. Each of these texts is read as a numeral that
keeps its exact value, and whether it is an integer literal. -/

namespace DetectionMerge.Json

open Nat (ofDigitChars)

structure Literal.Exponent where
  letter : Char
  mark : List Char
  digits : List Char
  begins : letter = 'e' ∨ letter = 'E'
  marked : IsMark mark
  isDigit : ∀ c ∈ digits, c.isDigit
  nonempty : digits ≠ []

/-- A number in the grammar of JSON. There is a point if there are digits behind it. -/
structure Literal where
  negative : Bool
  whole : List Char
  fraction : List Char
  exponent : Option Literal.Exponent
  wholePart : WholePart whole
  isDigit : ∀ c ∈ fraction, c.isDigit

namespace Literal

def Exponent.text (e : Exponent) : List Char := e.letter :: e.mark ++ e.digits

def Exponent.value (e : Exponent) : ℤ :=
  if e.mark = ['-'] then -(ofDigitChars 10 e.digits 0 : ℤ) else ofDigitChars 10 e.digits 0

def text (l : Literal) : List Char :=
  signText l.negative ++ (l.whole ++ ((if l.fraction = [] then [] else '.' :: l.fraction) ++
    l.exponent.elim [] Exponent.text))

/-- The exact magnitude of the number that a literal denotes. -/
def magnitude (l : Literal) : ℚ :=
  ofDigitChars 10 (l.whole ++ l.fraction) 0 *
    (10 : ℚ) ^ (l.exponent.elim 0 Exponent.value - l.fraction.length)

def value (l : Literal) : ℚ := if l.negative then -l.magnitude else l.magnitude

/-- Whether a literal has neither fraction nor exponent. -/
def isInteger (l : Literal) : Bool := l.fraction.isEmpty && l.exponent.isNone

def numeral (l : Literal) : Numeral where
  negative := l.negative
  integral := l.isInteger
  mantissa := ofDigitChars 10 (l.whole ++ l.fraction) 0
  fractionDigits := l.fraction.length
  exponentNegative := l.exponent.elim false fun e => decide (e.mark = ['-'])
  exponent := l.exponent.elim 0 fun e => ofDigitChars 10 e.digits 0

variable (l : Literal)

theorem magnitude_nonneg : 0 ≤ l.magnitude := by
  rw [magnitude]
  positivity

theorem abs_value : |l.value| = l.magnitude := by
  rw [value]
  split_ifs
  · rw [abs_neg, abs_of_nonneg l.magnitude_nonneg]
  · rw [abs_of_nonneg l.magnitude_nonneg]

theorem magnitude_of_value {a b : Literal} (same : a.value = b.value) :
    a.magnitude = b.magnitude := by
  rw [← a.abs_value, ← b.abs_value, same]

/-- Only zero is denoted with both signs. -/
theorem magnitude_eq_zero {a b : Literal} (same : a.value = b.value)
    (signs : a.negative ≠ b.negative) : b.magnitude = 0 := by
  have magnitude := magnitude_of_value same
  rw [value, value, magnitude] at same
  split_ifs at same with negative other other
  · exact absurd (negative.trans other.symm) signs
  · linarith
  · linarith
  · exact absurd ((Bool.eq_false_iff.2 negative).trans (Bool.eq_false_iff.2 other).symm) signs

theorem magnitude_decimal : l.numeral.decimal.magnitude = l.magnitude := by
  obtain ⟨negative, whole, fraction, _ | e, _, _⟩ := l
  · rfl
  · simp [Numeral.decimal, numeral, Decimal.magnitude, magnitude, Exponent.value]

theorem magnitude_of_isInteger (integer : l.isInteger) : l.magnitude = l.numeral.mantissa := by
  rw [isInteger, Bool.and_eq_true, List.isEmpty_iff, Option.isNone_iff_eq_none] at integer
  simp only [magnitude, numeral, integer.1, integer.2]
  simp

theorem written : Written l.text l.numeral := by
  intro tokens
  have phase := wholePhase_cases l.whole
  rw [text, ← List.append_assoc, Lexer.scan_append, scan_start l.wholePart, Option.bind_some]
  by_cases point : l.fraction = []
  · rw [if_pos point, List.nil_append]
    cases power : l.exponent with
    | none =>
      refine ⟨_, wholePhase_complete l.whole, ?_⟩
      simp [numeral, isInteger, point, power]
    | some e =>
      refine ⟨.exponentDigits, rfl, ?_⟩
      rw [Option.elim_some, Exponent.text,
        scan_exponentPart (by tauto) rfl rfl e.begins e.marked e.isDigit e.nonempty]
      simp [numeral, isInteger, point, power]
  · rw [if_neg point, Lexer.scan_append, scan_fraction phase l.isDigit point, Option.bind_some]
    cases power : l.exponent with
    | none =>
      refine ⟨.fraction, rfl, ?_⟩
      simp [numeral, isInteger, point, power, Nat.ofDigitChars_append]
    | some e =>
      refine ⟨.exponentDigits, rfl, ?_⟩
      rw [Option.elim_some, Exponent.text,
        scan_exponentPart (by tauto) rfl rfl e.begins e.marked e.isDigit e.nonempty]
      simp [numeral, isInteger, power, Nat.ofDigitChars_append]

theorem ofText?_text : ofText? l.text = some (.number l.numeral) :=
  ofText?_of_lexes (lexes_number l.written) fun _ => rfl

end Literal

end DetectionMerge.Json
