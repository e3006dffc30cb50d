import DetectionMerge.Proofs.Text.Classes
import DetectionMerge.Scores.Row

/-! What the readers of a row's parts read: fixed texts, runs of one class of
characters, and numerals. All but the numeral have only one reading; of a numeral
the longest reading counts. -/

namespace DetectionMerge

namespace ScoreRow

open Text

variable {cs rest run pad : List Char} {c : Char} {p : Char → Bool}

/-! ### Fixed texts -/

theorem after?_eq_some_iff {beginning : List Char} :
    after? beginning cs = some rest ↔ cs = beginning ++ rest := by
  simp only [after?]
  constructor
  · intro h
    split_ifs at h with isBeginning
    obtain ⟨rest', rfl⟩ := List.isPrefixOf_iff_prefix.1 isBeginning
    rw [List.drop_left] at h
    rw [Option.some.inj h]
  · rintro rfl
    rw [if_pos (List.isPrefixOf_iff_prefix.2 (List.prefix_append _ _)), List.drop_left]

/-- A text that begins with something else than white space. -/
def IsSolid (cs : List Char) : Prop := cs.head?.any fun c => !isBlank c

instance (cs : List Char) : Decidable (IsSolid cs) := inferInstanceAs (Decidable (_ = true))

theorem trimLeft_solid {beginning : List Char} (solid : IsSolid beginning) (rest : List Char) :
    trimLeft (beginning ++ rest) = beginning ++ rest := by
  cases beginning with
  | nil => cases solid
  | cons c beginning => exact trimLeft_cons (by simpa [IsSolid] using solid)

/-- A fixed text after white space, from which it is told apart by its first character. -/
theorem after?_trimLeft_eq_some_iff {beginning : List Char} (solid : IsSolid beginning) :
    after? beginning (trimLeft cs) = some rest ↔
      ∃ pad, Blank pad ∧ cs = pad ++ (beginning ++ rest) := by
  rw [after?_eq_some_iff]
  constructor
  · intro h
    obtain ⟨pad, blank, split⟩ := exists_eq_append_trimLeft cs
    exact ⟨pad, blank, by rw [← h, ← split]⟩
  · rintro ⟨pad, blank, rfl⟩
    rw [trimLeft_append blank, trimLeft_solid solid]

/-- The same where there has to be white space. -/
theorem after?_afterBlank?_eq_some_iff {beginning : List Char} (solid : IsSolid beginning) :
    (afterBlank? cs).bind (after? beginning) = some rest ↔
      ∃ pad, pad ≠ [] ∧ Blank pad ∧ cs = pad ++ (beginning ++ rest) := by
  cases cs with
  | nil => simp [afterBlank?, eq_comm]
  | cons b cs =>
    simp only [afterBlank?]
    split_ifs with blank
    · rw [Option.bind_some, after?_trimLeft_eq_some_iff solid]
      constructor
      · rintro ⟨pad, blanks, rfl⟩
        exact ⟨b :: pad, List.cons_ne_nil _ _, blank_cons.2 ⟨blank, blanks⟩, rfl⟩
      · rintro ⟨pad, nonempty, blanks, split⟩
        obtain ⟨b', pad, rfl⟩ := List.exists_cons_of_ne_nil nonempty
        obtain ⟨rfl, rfl⟩ := List.cons.inj split
        exact ⟨pad, (blank_cons.1 blanks).2, rfl⟩
    · rw [Option.bind_none]
      refine iff_of_false (by simp) ?_
      rintro ⟨pad, nonempty, blanks, split⟩
      obtain ⟨b', pad, rfl⟩ := List.exists_cons_of_ne_nil nonempty
      obtain ⟨rfl, rfl⟩ := List.cons.inj split
      exact blank (blank_cons.1 blanks).1

/-! ### Runs -/

/-- A text that does not go on with a character of a class. -/
def Stops (p : Char → Bool) (rest : List Char) : Prop := ∀ c ∈ rest.head?, p c = false

theorem stops_nil (p : Char → Bool) : Stops p [] := by simp [Stops]

theorem stops_cons : Stops p (c :: rest) ↔ p c = false := by simp [Stops]

theorem stops_append (apart : ∀ c, p c → isBlank c = false) (blank : Blank pad)
    (stops : Stops p rest) : Stops p (pad ++ rest) := by
  cases pad with
  | nil => exact stops
  | cons b pad =>
    refine stops_cons.2 (Bool.eq_false_iff.2 fun inside => ?_)
    have solid := apart b inside
    rw [(blank_cons.1 blank).1] at solid
    cases solid

theorem run?_eq_some_iff : run? p cs = some (run, rest) ↔
    cs = run ++ rest ∧ run ≠ [] ∧ (∀ c ∈ run, p c) ∧ Stops p rest := by
  constructor
  · intro h
    unfold run? at h
    split at h
    · cases h
    · next nonempty =>
      obtain ⟨rfl, rfl⟩ := Prod.mk.inj (Option.some.inj h)
      refine ⟨List.takeWhile_append_dropWhile.symm, nonempty, fun _ => List.mem_takeWhile_imp, ?_⟩
      have stop := List.head?_dropWhile_not p cs
      intro c head
      rw [Option.mem_def.1 head] at stop
      simpa using stop
  · rintro ⟨rfl, nonempty, inside, stops⟩
    have ended : rest.takeWhile p = [] ∧ rest.dropWhile p = rest := by
      cases rest with
      | nil => exact ⟨rfl, rfl⟩
      | cons c rest => simp [stops_cons.1 stops]
    obtain ⟨c, run, rfl⟩ := List.exists_cons_of_ne_nil nonempty
    simp only [run?, List.takeWhile_append_of_pos inside, List.dropWhile_append_of_pos inside,
      ended, List.append_nil]

theorem run?_trimLeft_eq_some_iff (apart : ∀ c, p c → isBlank c = false) :
    run? p (trimLeft cs) = some (run, rest) ↔
      ∃ pad, Blank pad ∧ cs = pad ++ (run ++ rest) ∧ run ≠ [] ∧ (∀ c ∈ run, p c) ∧
        Stops p rest := by
  rw [run?_eq_some_iff]
  constructor
  · rintro ⟨split, nonempty, inside, stops⟩
    obtain ⟨pad, blank, skipped⟩ := exists_eq_append_trimLeft cs
    exact ⟨pad, blank, by rw [← split, ← skipped], nonempty, inside, stops⟩
  · rintro ⟨pad, blank, rfl, nonempty, inside, stops⟩
    refine ⟨?_, nonempty, inside, stops⟩
    obtain ⟨c, run, rfl⟩ := List.exists_cons_of_ne_nil nonempty
    rw [trimLeft_append blank, List.cons_append,
      trimLeft_cons (apart c (inside c List.mem_cons_self))]

theorem run?_eq_none_iff : run? p cs = none ↔ Stops p cs := by
  cases cs with
  | nil => exact iff_of_true rfl (stops_nil p)
  | cons c cs =>
    rw [stops_cons]
    cases inside : p c with
    | true => simp [run?, inside]
    | false => simp [run?, inside]

/-- A run that does not go on is at least as long as any other at the same place. -/
theorem run_cases {run' rest' : List Char} (same : run ++ rest = run' ++ rest')
    (inside' : ∀ c ∈ run', p c) (stops : Stops p rest) :
    run' = run ∧ rest' = rest ∨ ∃ c more, run = run' ++ c :: more ∧ rest' = c :: more ++ rest := by
  obtain ⟨extra, rfl, rfl⟩ | ⟨extra, rfl, rfl⟩ := List.append_eq_append_iff.1 same
  · cases extra with
    | nil => exact .inl ⟨List.append_nil _, rfl⟩
    | cons c extra =>
      have inside := inside' c (by simp)
      rw [List.cons_append, stops_cons, inside] at stops
      cases stops
  · cases extra with
    | nil => exact .inl ⟨(List.append_nil _).symm, rfl⟩
    | cons c more => exact .inr ⟨c, more, rfl, rfl⟩

/-! ### Numerals -/

end ScoreRow

namespace SpelledNumber

/-- The point and the digits behind it, if there are any. -/
def fractionText (fraction : List Char) : List Char :=
  if fraction = [] then [] else '.' :: fraction

/-- A numeral as it is written. -/
def text (n : SpelledNumber) : List Char :=
  (if n.negative then ['-'] else []) ++ (n.whole ++ fractionText n.fraction)

/-- There are digits before the point, and nothing but digits behind it. -/
structure IsNumeral (n : SpelledNumber) : Prop where
  whole_ne_nil : n.whole ≠ []
  whole : ∀ c ∈ n.whole, Text.isDigit c
  fraction : ∀ c ∈ n.fraction, Text.isDigit c

/-- A numeral does not go on: there are no more digits, and where it has no
point, no point with digits behind it. -/
def EndsBefore (fraction rest : List Char) : Prop :=
  ScoreRow.Stops Text.isDigit rest ∧
    (fraction = [] → ∀ more, rest = '.' :: more → ScoreRow.Stops Text.isDigit more)

end SpelledNumber

namespace ScoreRow

open Text
open SpelledNumber (fractionText EndsBefore)

variable {cs rest whole fraction : List Char}

/-- The digits of the longest numeral without a sign. -/
def digits? (cs : List Char) : Option (List Char × List Char) :=
  (run? isDigit cs).map fun (whole, rest) =>
    (whole, ((after? ['.'] rest).bind (run? isDigit)).elim [] (·.1))

theorem number?_eq (cs : List Char) : number? cs =
    (digits? (if cs.head? = some '-' then cs.drop 1 else cs)).map
      fun (whole, fraction) => ⟨cs.head? = some '-', whole, fraction⟩ := by
  simp only [number?, digits?, Option.map_map]
  cases run? isDigit (if cs.head? = some '-' then cs.drop 1 else cs) with
  | none => rfl
  | some found => rfl

theorem stops_fractionText (stops : Stops isDigit rest) :
    Stops isDigit (fractionText fraction ++ rest) := by
  rw [fractionText]
  split_ifs
  · exact stops
  · exact stops_cons.2 (by decide)

theorem digits?_eq_some_iff : digits? cs = some (whole, fraction) ↔
    whole ≠ [] ∧ (∀ c ∈ whole, isDigit c) ∧ (∀ c ∈ fraction, isDigit c) ∧
      ∃ rest, cs = whole ++ (fractionText fraction ++ rest) ∧ EndsBefore fraction rest := by
  simp only [digits?, Option.map_eq_some_iff, Prod.exists, Prod.mk.injEq, run?_eq_some_iff]
  constructor
  · rintro ⟨whole, rest, ⟨rfl, nonempty, inside, stops⟩, rfl, rfl⟩
    refine ⟨nonempty, inside, ?_⟩
    cases found : (after? ['.'] rest).bind (run? isDigit) with
    | none =>
      refine ⟨List.forall_mem_nil _, rest, rfl, stops, fun _ more split => ?_⟩
      rw [after?_eq_some_iff.2 (show rest = ['.'] ++ more from split), Option.bind_some] at found
      exact run?_eq_none_iff.1 found
    | some pair =>
      obtain ⟨fraction, rest'⟩ := pair
      obtain ⟨more, split, read⟩ := Option.bind_eq_some_iff.1 found
      obtain ⟨rfl, nonempty', inside', stops'⟩ := run?_eq_some_iff.1 read
      refine ⟨inside', rest', ?_, stops', fun empty => absurd empty nonempty'⟩
      rw [after?_eq_some_iff.1 split]
      simp [fractionText, nonempty']
  · rintro ⟨nonempty, inside, inside', rest, rfl, stops, ends⟩
    refine ⟨whole, _, ⟨rfl, nonempty, inside, stops_fractionText stops⟩, rfl, ?_⟩
    by_cases empty : fraction = []
    · subst empty
      cases point : after? ['.'] rest with
      | none => simp [fractionText, point]
      | some more =>
        have stopped := run?_eq_none_iff.2 (ends rfl more (after?_eq_some_iff.1 point))
        simp [fractionText, point, stopped]
    · have point : after? ['.'] (fractionText fraction ++ rest) = some (fraction ++ rest) :=
        after?_eq_some_iff.2 (by simp [fractionText, empty])
      rw [point, Option.bind_some, run?_eq_some_iff.2 ⟨rfl, empty, inside', stops⟩]
      rfl

/-- A numeral begins with its sign, and without one with a digit. -/
theorem head?_text {n : SpelledNumber} (h : n.IsNumeral) :
    decide ((n.text ++ rest).head? = some '-') = n.negative := by
  obtain ⟨negative, whole, fraction⟩ := n
  obtain ⟨c, whole, rfl⟩ := List.exists_cons_of_ne_nil h.whole_ne_nil
  cases negative with
  | true => rfl
  | false =>
    refine decide_eq_false fun minus => ?_
    obtain rfl : c = '-' := by simpa [SpelledNumber.text] using minus
    exact absurd (h.whole '-' List.mem_cons_self) (by decide)

theorem number?_text_append {n : SpelledNumber} (h : n.IsNumeral) (rest : List Char) :
    number? (n.text ++ rest) =
      (digits? (n.whole ++ (fractionText n.fraction ++ rest))).map fun (whole, fraction) =>
        ⟨n.negative, whole, fraction⟩ := by
  have unsigned : (if (n.text ++ rest).head? = some '-' then (n.text ++ rest).drop 1
      else n.text ++ rest) = n.whole ++ (fractionText n.fraction ++ rest) := by
    have sign : decide ((n.text ++ rest).head? = some '-') = n.negative := head?_text h
    cases negative : n.negative with
    | true =>
      rw [negative, decide_eq_true_iff] at sign
      rw [if_pos sign]
      simp [SpelledNumber.text, negative]
    | false =>
      rw [negative, decide_eq_false_iff_not] at sign
      rw [if_neg sign]
      simp [SpelledNumber.text, negative]
  rw [number?_eq, unsigned, head?_text h]

/-- A numeral that does not go on is read as it is. -/
theorem number?_of_endsBefore {n : SpelledNumber} (h : n.IsNumeral)
    (ends : EndsBefore n.fraction rest) : number? (n.text ++ rest) = some n := by
  rw [number?_text_append h, digits?_eq_some_iff.2
    ⟨h.whole_ne_nil, h.whole, h.fraction, rest, rfl, ends⟩]
  rfl

theorem isSolid_text {n : SpelledNumber} (h : n.IsNumeral) : IsSolid n.text := by
  obtain ⟨negative, whole, fraction⟩ := n
  obtain ⟨c, whole, rfl⟩ := List.exists_cons_of_ne_nil h.whole_ne_nil
  cases negative with
  | true => rfl
  | false => simp [IsSolid, SpelledNumber.text, isBlank_of_isDigit (h.whole c List.mem_cons_self)]

/-- What is read is a numeral at the beginning. -/
theorem isNumeral_of_number? {n : SpelledNumber} (h : number? cs = some n) :
    n.IsNumeral ∧ ∃ rest, cs = n.text ++ rest := by
  rw [number?_eq] at h
  obtain ⟨⟨whole, fraction⟩, read, rfl⟩ := Option.map_eq_some_iff.1 h
  obtain ⟨nonempty, inside, inside', rest, split, -⟩ := digits?_eq_some_iff.1 read
  refine ⟨⟨nonempty, inside, inside'⟩, rest, ?_⟩
  split_ifs at split with sign
  · obtain ⟨cs, rfl⟩ := List.head?_eq_some_iff.1 sign
    simp only [List.drop_one, List.tail_cons] at split
    simp [SpelledNumber.text, split]
  · rw [SpelledNumber.text, if_neg (by simpa using sign), List.nil_append, List.append_assoc]
    exact split

theorem not_stops {d : Char} (inside : p d) : ¬Stops p (d :: rest) := by
  rw [stops_cons, inside]
  exact Bool.noConfusion

/-- Where a text begins with digits and a fraction, they or longer ones are read. -/
theorem digits?_longest {whole' fraction' : List Char} (nonempty' : whole' ≠ [])
    (inside' : ∀ c ∈ whole', isDigit c) (fractionInside' : ∀ c ∈ fraction', isDigit c)
    (rest' : List Char) :
    ∃ whole fraction,
      digits? (whole' ++ (fractionText fraction' ++ rest')) = some (whole, fraction) ∧
      (whole' = whole ∧ fraction' = fraction ∨
        (whole' ++ fractionText fraction').length < (whole ++ fractionText fraction).length) := by
  cases read : digits? (whole' ++ (fractionText fraction' ++ rest')) with
  | none =>
    obtain ⟨c, whole', rfl⟩ := List.exists_cons_of_ne_nil nonempty'
    rw [digits?, Option.map_eq_none_iff, run?_eq_none_iff] at read
    exact absurd read (not_stops (inside' c List.mem_cons_self))
  | some pair =>
    obtain ⟨whole, fraction⟩ := pair
    refine ⟨whole, fraction, rfl, ?_⟩
    obtain ⟨-, inside, -, rest, split, stops, ends⟩ := digits?_eq_some_iff.1 read
    obtain ⟨rfl, behind⟩ | ⟨c, more, rfl, behind⟩ :=
      run_cases split.symm inside' (stops_fractionText stops)
    · rw [List.length_append, List.length_append, Nat.add_lt_add_iff_left]
      by_cases empty' : fraction' = []
      · by_cases empty : fraction = []
        · exact .inl ⟨rfl, by rw [empty, empty']⟩
        · simp [fractionText, empty, empty']
      obtain ⟨d, digits, rfl⟩ := List.exists_cons_of_ne_nil empty'
      by_cases empty : fraction = []
      · subst empty
        exact absurd (ends rfl _ behind.symm) (not_stops (fractionInside' d List.mem_cons_self))
      · simp only [fractionText, if_neg empty, if_neg empty', List.cons_append,
          List.cons.injEq, true_and] at behind
        obtain ⟨same, -⟩ | ⟨c, more, rfl, -⟩ := run_cases behind.symm fractionInside' stops
        · exact .inl ⟨rfl, same⟩
        · simp [fractionText]
    · have digit : isDigit c := inside c (by simp)
      have empty' : fraction' = [] := by
        by_contra nonempty
        rw [fractionText, if_neg nonempty] at behind
        obtain ⟨rfl, -⟩ := List.cons.inj behind
        exact absurd digit (by decide)
      right
      simp [fractionText, empty']

/-- Where a text begins with a numeral, it or a longer one is read. -/
theorem number?_longest {m : SpelledNumber} (h : m.IsNumeral) (rest : List Char) :
    ∃ n, number? (m.text ++ rest) = some n ∧ (m = n ∨ m.text.length < n.text.length) := by
  obtain ⟨whole, fraction, read, longest⟩ := digits?_longest h.whole_ne_nil h.whole h.fraction rest
  refine ⟨⟨m.negative, whole, fraction⟩, by rw [number?_text_append h, read]; rfl, ?_⟩
  obtain ⟨rfl, rfl⟩ | longer := longest
  · exact .inl rfl
  · exact .inr (by simpa [SpelledNumber.text] using longer)

end ScoreRow

end DetectionMerge
