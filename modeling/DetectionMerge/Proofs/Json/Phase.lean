import DetectionMerge.Proofs.Json.Literal

/-! The phases of a number literal. While a number is read, what has been read of it is a
literal, or a literal and a point, the letter of an exponent or its mark. Each further
character keeps this, and the numeral read so far is that of the literal. -/

namespace DetectionMerge.Json

open Nat (ofDigitChars)

/-! ### Longer literals -/

theorem isDigit_nil : ∀ c ∈ ([] : List Char), c.isDigit := by simp

theorem isDigit_concat {ds : List Char} (h : ∀ c ∈ ds, c.isDigit) {c : Char} (digit : c.isDigit) :
    ∀ x ∈ ds ++ [c], x.isDigit := by
  intro x mem
  rcases List.mem_append.1 mem with mem | mem
  · exact h x mem
  · rwa [List.mem_singleton.1 mem]

theorem WholePart.single {c : Char} (digit : c.isDigit) : WholePart [c] := by
  obtain ⟨d, bound, rfl⟩ := exists_digitChar digit
  rcases Nat.eq_zero_or_pos d with rfl | positive
  · exact .zero
  · exact .positive positive bound (by simp)

theorem WholePart.concat {ds : List Char} (h : WholePart ds) (more : ds ≠ ['0']) {c : Char}
    (digit : c.isDigit) : WholePart (ds ++ [c]) := by
  cases h with
  | zero => exact absurd rfl more
  | positive low high digits =>
    exact .positive low high (isDigit_concat digits digit)

theorem ofDigitChars_concat (ds : List Char) (c : Char) :
    ofDigitChars 10 (ds ++ [c]) 0 = 10 * ofDigitChars 10 ds 0 + (c.toNat - '0'.toNat) := by
  rw [Nat.ofDigitChars_append]
  rfl

namespace Literal

def phase (l : Literal) : NumberPhase :=
  if l.exponent.isSome then .exponentDigits
  else if l.fraction = [] then wholePhase l.whole
  else .fraction

def addFraction (l : Literal) {c : Char} (digit : c.isDigit) : Literal :=
  { l with
    fraction := l.fraction ++ [c]
    isDigit := isDigit_concat l.isDigit digit }

theorem text_addFraction {l : Literal} (last : l.exponent = none) {c : Char}
    (digit : c.isDigit) :
    (l.addFraction digit).text = l.text ++ (if l.fraction = [] then ['.', c] else [c]) := by
  split_ifs with point <;> simp [text, addFraction, last, point]

theorem numeral_addFraction {l : Literal} (last : l.exponent = none) {c : Char}
    (digit : c.isDigit) :
    (l.addFraction digit).numeral = l.numeral.pushFraction (c.toNat - '0'.toNat) := by
  simp only [numeral, addFraction, last, Numeral.pushFraction, ← List.append_assoc,
    ofDigitChars_concat]
  simp [isInteger]

def withExponent (l : Literal) (e : Exponent) : Literal := { l with exponent := some e }

theorem text_withExponent {l : Literal} (last : l.exponent = none) (e : Exponent) :
    (l.withExponent e).text = l.text ++ e.text := by
  simp only [text, last, Option.elim_none, List.append_nil, List.append_assoc]
  rfl

theorem numeral_withExponent (l : Literal) (e : Exponent) :
    (l.withExponent e).numeral =
      { l.numeral with
        integral := false
        exponentNegative := decide (e.mark = ['-'])
        exponent := ofDigitChars 10 e.digits 0 } := by
  simp [numeral, withExponent, isInteger]

theorem of_phase_start {l : Literal} (h : l.phase = .zero ∨ l.phase = .whole) :
    l.exponent = none ∧ l.fraction = [] := by
  unfold phase at h
  split_ifs at h with exponent point
  · simp at h
  · exact ⟨by simpa using exponent, point⟩
  · simp at h

theorem of_phase_whole {l : Literal} (h : l.phase = .whole) : l.whole ≠ ['0'] := by
  unfold phase wholePhase at h
  split_ifs at h with _ _ zero
  exact zero

theorem of_phase_fraction {l : Literal} (h : l.phase = .fraction) :
    l.exponent = none ∧ l.fraction ≠ [] := by
  unfold phase wholePhase at h
  split_ifs at h with exponent point zero
  exact ⟨by simpa using exponent, point⟩

theorem of_phase_exponentDigits {l : Literal} (h : l.phase = .exponentDigits) :
    ∃ (m : Literal) (e : Exponent), m.exponent = none ∧ l = m.withExponent e := by
  unfold phase wholePhase at h
  split_ifs at h with exponent
  obtain ⟨e, last⟩ := Option.isSome_iff_exists.1 exponent
  exact ⟨{ l with exponent := none }, e, rfl, by rw [withExponent, ← last]⟩

theorem phase_complete (l : Literal) : l.phase.complete := by
  unfold phase
  split_ifs
  · rfl
  · exact wholePhase_complete l.whole
  · rfl

end Literal

/-! ### The beginning of a number literal -/

/-- A number literal as far as some phase. -/
def NumberBegun : NumberPhase → Numeral → List Char → Prop
  | .sign, n, cs => ∃ negative, cs = signText negative ∧ n = { negative := negative }
  | .point, n, cs =>
    ∃ l : Literal, l.exponent = none ∧ l.fraction = [] ∧ cs = l.text ++ ['.'] ∧ n = l.numeral
  | .exponent, n, cs =>
    ∃ (l : Literal) (letter : Char), l.exponent = none ∧ (letter = 'e' ∨ letter = 'E') ∧
      cs = l.text ++ [letter] ∧ n = l.numeral
  | .exponentSign, n, cs =>
    ∃ (l : Literal) (letter mark : Char), l.exponent = none ∧ (letter = 'e' ∨ letter = 'E') ∧
      IsMark [mark] ∧ cs = l.text ++ [letter, mark] ∧
      n = { l.numeral with exponentNegative := decide ([mark] = ['-']) }
  | phase, n, cs => ∃ l : Literal, l.phase = phase ∧ cs = l.text ∧ n = l.numeral

section Number

variable {phase phase' : NumberPhase} {n n' : Numeral} {cs : List Char} {c : Char} {d : ℕ}

theorem Literal.begun (l : Literal) : NumberBegun l.phase l.numeral l.text := by
  have complete := l.phase_complete
  cases phase : l.phase with
  | zero | whole | fraction | exponentDigits => exact ⟨l, phase, rfl, rfl⟩
  | sign | point | exponent | exponentSign =>
    rw [phase] at complete
    cases complete

theorem numberBegun_of_literal {l : Literal} (ends : l.phase = phase) (numeral : l.numeral = n)
    (text : l.text = cs) : NumberBegun phase n cs := by
  subst ends numeral text
  exact l.begun

theorem numberBegun_whole (negative : Bool) {ds : List Char} (h : WholePart ds) :
    NumberBegun (wholePhase ds) { negative := negative, mantissa := ofDigitChars 10 ds 0 }
      (signText negative ++ ds) := by
  let l : Literal := ⟨negative, ds, [], none, h, isDigit_nil⟩
  refine numberBegun_of_literal (l := l) ?_ ?_ ?_
  · simp [Literal.phase, l]
  · simp [Literal.numeral, Literal.isInteger, l]
  · simp [Literal.text, l]

theorem wholePhase_single (digit : Text.asciiDigit? c = some d) :
    wholePhase [c] = if d = 0 then .zero else .whole := by
  obtain ⟨isDigit, rfl⟩ := Text.asciiDigit?_eq_some_iff.1 digit
  obtain ⟨d, bound, rfl⟩ := exists_digitChar isDigit
  interval_cases d <;> rfl

theorem wholePhase_concat {ds : List Char} (h : WholePart ds) (c : Char) :
    wholePhase (ds ++ [c]) = .whole := by
  obtain ⟨first, rest, rfl, -⟩ := h.exists_cons
  simp [wholePhase]

theorem Literal.begun_fraction {l : Literal} (last : l.exponent = none) (digit : c.isDigit) :
    NumberBegun .fraction (l.numeral.pushFraction (c.toNat - '0'.toNat))
      (l.text ++ if l.fraction = [] then ['.', c] else [c]) := by
  refine numberBegun_of_literal (l := l.addFraction digit) ?_ (numeral_addFraction last digit)
    (text_addFraction last digit)
  simp [phase, addFraction, last]

theorem Literal.begun_exponent {l : Literal} (last : l.exponent = none) {letter : Char}
    (begins : letter = 'e' ∨ letter = 'E') {mark : List Char} (marked : IsMark mark)
    (digit : c.isDigit) :
    NumberBegun .exponentDigits
      (Numeral.pushExponent { l.numeral with exponentNegative := decide (mark = ['-']) }
        (c.toNat - '0'.toNat))
      (l.text ++ letter :: mark ++ [c]) := by
  let e : Literal.Exponent := ⟨letter, mark, [c], begins, marked, by simpa using digit, by simp⟩
  refine numberBegun_of_literal (l := l.withExponent e) ?_ ?_ ?_
  · simp [Literal.phase, Literal.withExponent]
  · have none : l.numeral.exponent = 0 := by simp [Literal.numeral, last]
    rw [Literal.numeral_withExponent, Nat.ofDigitChars_cons, Numeral.pushExponent, none]
    rfl
  · rw [Literal.text_withExponent last, Literal.Exponent.text]
    simp [e]

theorem Literal.begun_withExponent {l : Literal} (last : l.exponent = none) (e : Exponent)
    (digit : c.isDigit) :
    NumberBegun .exponentDigits ((l.withExponent e).numeral.pushExponent (c.toNat - '0'.toNat))
      ((l.withExponent e).text ++ [c]) := by
  let longer : Exponent :=
    { e with
      digits := e.digits ++ [c]
      isDigit := isDigit_concat e.isDigit digit
      nonempty := by simp }
  refine numberBegun_of_literal (l := l.withExponent longer) ?_ ?_ ?_
  · simp [phase, withExponent]
  · simp [numeral_withExponent, longer, ofDigitChars_concat, Numeral.pushExponent]
  · simp [text_withExponent last, Exponent.text, longer]

theorem NumberBegun.digit (h : NumberBegun phase n cs) (digit : Text.asciiDigit? c = some d)
    (advances : n.advance phase c = some (phase', n')) : NumberBegun phase' n' (cs ++ [c]) := by
  have first := wholePhase_single digit
  obtain ⟨isDigit, rfl⟩ := Text.asciiDigit?_eq_some_iff.1 digit
  cases phase with
  | sign =>
    obtain ⟨negative, rfl, rfl⟩ := h
    simp only [Numeral.advance, digit, ← first, Option.some.injEq, Prod.mk.injEq] at advances
    obtain ⟨rfl, rfl⟩ := advances
    have single := numberBegun_whole negative (.single isDigit)
    rwa [Nat.ofDigitChars_cons] at single
  | zero => simp [Numeral.advance, digit] at advances
  | whole =>
    obtain ⟨l, phase, rfl, rfl⟩ := h
    obtain ⟨last, point⟩ := l.of_phase_start (.inr phase)
    simp only [Numeral.advance, digit, Option.some.injEq, Prod.mk.injEq] at advances
    obtain ⟨rfl, rfl⟩ := advances
    have longer := numberBegun_whole l.negative
      (l.wholePart.concat (l.of_phase_whole phase) isDigit)
    rw [wholePhase_concat l.wholePart, ofDigitChars_concat] at longer
    simpa [Literal.text, Literal.numeral, Literal.isInteger, Numeral.pushWhole, last, point]
      using longer
  | point =>
    obtain ⟨l, last, point, rfl, rfl⟩ := h
    simp only [Numeral.advance, digit, Option.some.injEq, Prod.mk.injEq] at advances
    obtain ⟨rfl, rfl⟩ := advances
    simpa [point] using l.begun_fraction last isDigit
  | fraction =>
    obtain ⟨l, phase, rfl, rfl⟩ := h
    obtain ⟨last, point⟩ := l.of_phase_fraction phase
    simp only [Numeral.advance, digit, Option.some.injEq, Prod.mk.injEq] at advances
    obtain ⟨rfl, rfl⟩ := advances
    simpa [point] using l.begun_fraction last isDigit
  | exponent =>
    obtain ⟨l, letter, last, begins, rfl, rfl⟩ := h
    simp only [Numeral.advance, digit, Option.some.injEq, Prod.mk.injEq] at advances
    obtain ⟨rfl, rfl⟩ := advances
    have positive : l.numeral = { l.numeral with exponentNegative := false } := by
      simp [Literal.numeral, last]
    rw [positive]
    exact l.begun_exponent last begins (.inl rfl) isDigit
  | exponentSign =>
    obtain ⟨l, letter, mark, last, begins, marked, rfl, rfl⟩ := h
    simp only [Numeral.advance, digit, Option.some.injEq, Prod.mk.injEq] at advances
    obtain ⟨rfl, rfl⟩ := advances
    exact l.begun_exponent last begins marked isDigit
  | exponentDigits =>
    obtain ⟨l, phase, rfl, rfl⟩ := h
    obtain ⟨l, e, last, rfl⟩ := l.of_phase_exponentDigits phase
    simp only [Numeral.advance, digit, Option.some.injEq, Prod.mk.injEq] at advances
    obtain ⟨rfl, rfl⟩ := advances
    exact l.begun_withExponent last e isDigit

theorem NumberBegun.other (h : NumberBegun phase n cs) (other : Text.asciiDigit? c = none)
    (advances : n.advance phase c = some (phase', n')) : NumberBegun phase' n' (cs ++ [c]) := by
  cases phase with
  | sign | point | exponentSign | exponentDigits => simp [Numeral.advance, other] at advances
  | zero | whole =>
    obtain ⟨l, phase, rfl, rfl⟩ := h
    obtain ⟨last, point⟩ := l.of_phase_start (by simp [phase])
    simp only [Numeral.advance, other] at advances
    split_ifs at advances with mark letter
    all_goals
      simp only [Option.some.injEq, Prod.mk.injEq] at advances
      obtain ⟨rfl, rfl⟩ := advances
    · subst mark
      exact ⟨l, last, point, rfl, rfl⟩
    · exact ⟨l, c, last, letter, rfl, rfl⟩
  | fraction =>
    obtain ⟨l, phase, rfl, rfl⟩ := h
    simp only [Numeral.advance, other] at advances
    split_ifs at advances with letter
    simp only [Option.some.injEq, Prod.mk.injEq] at advances
    obtain ⟨rfl, rfl⟩ := advances
    exact ⟨l, c, (l.of_phase_fraction phase).1, letter, rfl, rfl⟩
  | exponent =>
    obtain ⟨l, letter, last, begins, rfl, rfl⟩ := h
    simp only [Numeral.advance, other] at advances
    split_ifs at advances with plus minus
    all_goals
      simp only [Option.some.injEq, Prod.mk.injEq] at advances
      obtain ⟨rfl, rfl⟩ := advances
    · subst plus
      refine ⟨l, letter, '+', last, begins, .inr (.inl rfl), by simp, ?_⟩
      simp [Literal.numeral, last]
    · subst minus
      exact ⟨l, letter, '-', last, begins, .inr (.inr rfl), by simp, by simp⟩

theorem NumberBegun.step (h : NumberBegun phase n cs)
    (advances : n.advance phase c = some (phase', n')) : NumberBegun phase' n' (cs ++ [c]) := by
  cases digit : Text.asciiDigit? c with
  | none => exact h.other digit advances
  | some d => exact h.digit digit advances

end Number

end DetectionMerge.Json
