import DetectionMerge.Json.Layout
import DetectionMerge.Json.Lexer
import DetectionMerge.Proofs.Number.Shortest
import DetectionMerge.Proofs.Text.Classes

/-! Numbers written as JSON text and read again. An integer is read as the
integer; a finite double precision number is read as a numeral whose exact value
lies in the number's rounding interval, so that it is rounded back to the number.
A numeral ends where the text ends or a character follows that cannot continue
it. -/

namespace DetectionMerge.Json

open Nat (toDigits ofDigitChars)

/-! ### Reading character by character -/

/-- The reader after some characters. -/
def Lexer.scan (l : Lexer) (cs : List Char) : Option Lexer := (cs.map some).foldlM Lexer.step l

namespace Lexer

@[simp] theorem scan_nil (l : Lexer) : l.scan [] = some l := rfl

@[simp] theorem scan_cons (l : Lexer) (c : Char) (cs : List Char) :
    l.scan (c :: cs) = (l.step (some c)).bind (·.scan cs) := rfl

theorem scan_append (l : Lexer) (cs ds : List Char) :
    l.scan (cs ++ ds) = (l.scan cs).bind (·.scan ds) := by
  simp only [scan, List.map_append, List.foldlM_append]
  rfl

end Lexer

/-! ### Digits -/

theorem exists_digitChar {c : Char} (h : c.isDigit) : ∃ d < 10, c = Nat.digitChar d := by
  obtain ⟨low, high⟩ := Char.isDigit_iff_toNat.1 h
  change 48 ≤ c.toNat at low
  change c.toNat ≤ 57 at high
  refine ⟨c.toNat - 48, by omega, ?_⟩
  rw [← Char.ofNat_toNat c]
  generalize c.toNat = n at low high ⊢
  interval_cases n <;> rfl

theorem toDigits_eq_cons {n : ℕ} (positive : 0 < n) :
    ∃ d ds, toDigits 10 n = Nat.digitChar d :: ds ∧ 0 < d ∧ d < 10 := by
  induction n using Nat.strongRecOn with
  | _ n ih =>
    rcases Nat.lt_or_ge n 10 with small | large
    · exact ⟨n, [], Nat.toDigits_of_lt_base small, positive, small⟩
    · obtain ⟨d, ds, first, bounds⟩ := ih (n / 10) (by omega) (by omega)
      exact ⟨d, ds ++ [Nat.digitChar (n % 10)],
        by rw [Nat.toDigits_of_base_le (by norm_num) large, first]; rfl, bounds⟩

theorem begin_digit {c : Char} (h : c.isDigit) (tokens : List Token) :
    Lexer.begin tokens c = Lexer.step ⟨.number .sign {}, tokens⟩ (some c) := by
  obtain ⟨d, hd, rfl⟩ := exists_digitChar h
  interval_cases d <;> rfl

/-! ### Runs of digits -/

/-- A number after a run of digits, each of them pushed in the same way. -/
def pushAll (push : Numeral → ℕ → Numeral) (ds : List Char) (n : Numeral) : Numeral :=
  ds.foldl (fun n c => push n (c.toNat - '0'.toNat)) n

theorem pushAll_whole (ds : List Char) (n : Numeral) :
    pushAll Numeral.pushWhole ds n = { n with mantissa := ofDigitChars 10 ds n.mantissa } := by
  induction ds generalizing n with
  | nil => simp [pushAll]
  | cons c ds ih =>
    rw [Nat.ofDigitChars_cons]
    exact ih _

theorem pushAll_fraction {ds : List Char} (nonempty : ds ≠ []) (n : Numeral) :
    pushAll Numeral.pushFraction ds n =
      { n with
        integral := false
        mantissa := ofDigitChars 10 ds n.mantissa
        fractionDigits := n.fractionDigits + ds.length } := by
  induction ds generalizing n with
  | nil => exact absurd rfl nonempty
  | cons c ds ih =>
    rw [Nat.ofDigitChars_cons]
    rcases eq_or_ne ds [] with rfl | more
    · rfl
    · refine (ih more _).trans ?_
      simp only [Numeral.pushFraction, List.length_cons, Numeral.mk.injEq, true_and, and_true]
      omega

theorem pushAll_exponent {ds : List Char} (nonempty : ds ≠ []) (n : Numeral) :
    pushAll Numeral.pushExponent ds n =
      { n with integral := false, exponent := ofDigitChars 10 ds n.exponent } := by
  induction ds generalizing n with
  | nil => exact absurd rfl nonempty
  | cons c ds ih =>
    rw [Nat.ofDigitChars_cons]
    rcases eq_or_ne ds [] with rfl | more
    · rfl
    · exact ih more _

section Run

variable {ds : List Char} {tokens : List Token} {first phase : NumberPhase}
  {push : Numeral → ℕ → Numeral}

theorem step_of_advance {n n' : Numeral} {c : Char} (h : n.advance first c = some (phase, n')) :
    Lexer.step ⟨.number first n, tokens⟩ (some c) = some ⟨.number phase n', tokens⟩ := by
  simp only [Lexer.step, h]

/-- A run of digits stays in a phase that every digit keeps. -/
theorem scan_digits
    (keeps : ∀ n c, c.isDigit → Numeral.advance n phase c = some (phase, push n (c.toNat - '0'.toNat)))
    (digits : ∀ c ∈ ds, c.isDigit) (n : Numeral) :
    Lexer.scan ⟨.number phase n, tokens⟩ ds = some ⟨.number phase (pushAll push ds n), tokens⟩ := by
  induction ds generalizing n with
  | nil => rfl
  | cons c ds ih =>
    have step : Lexer.step ⟨.number phase n, tokens⟩ (some c) = _ :=
      step_of_advance (keeps n c (digits c (by simp)))
    rw [Lexer.scan_cons, step, Option.bind_some, ih (fun x hx => digits x (by simp [hx]))]
    rfl

/-- A run of digits that is not empty, from a phase that the first one ends. -/
theorem scan_first_digits
    (begins : ∀ n c, c.isDigit → Numeral.advance n first c = some (phase, push n (c.toNat - '0'.toNat)))
    (keeps : ∀ n c, c.isDigit → Numeral.advance n phase c = some (phase, push n (c.toNat - '0'.toNat)))
    (digits : ∀ c ∈ ds, c.isDigit) (nonempty : ds ≠ []) (n : Numeral) :
    Lexer.scan ⟨.number first n, tokens⟩ ds = some ⟨.number phase (pushAll push ds n), tokens⟩ := by
  cases ds with
  | nil => exact absurd rfl nonempty
  | cons c ds =>
    have step : Lexer.step ⟨.number first n, tokens⟩ (some c) = _ :=
      step_of_advance (begins n c (digits c (by simp)))
    rw [Lexer.scan_cons, step, Option.bind_some,
      scan_digits keeps (fun x hx => digits x (by simp [hx]))]
    rfl

theorem advance_digit {n : Numeral} {c : Char} (h : c.isDigit) :
    n.advance .whole c = some (.whole, n.pushWhole (c.toNat - '0'.toNat)) ∧
      n.advance .point c = some (.fraction, n.pushFraction (c.toNat - '0'.toNat)) ∧
      n.advance .fraction c = some (.fraction, n.pushFraction (c.toNat - '0'.toNat)) ∧
      n.advance .exponent c = some (.exponentDigits, n.pushExponent (c.toNat - '0'.toNat)) ∧
      n.advance .exponentSign c = some (.exponentDigits, n.pushExponent (c.toNat - '0'.toNat)) ∧
      n.advance .exponentDigits c =
        some (.exponentDigits, n.pushExponent (c.toNat - '0'.toNat)) := by
  simp only [Numeral.advance, Text.asciiDigit?_of_isDigit h, and_self]

end Run

/-! ### The parts of a number -/

/-- Digits that may stand before the point: a lone zero, or no leading zero. -/
inductive WholePart : List Char → Prop
  | zero : WholePart ['0']
  | positive {d : ℕ} {ds : List Char} (low : 0 < d) (high : d < 10)
    (digits : ∀ c ∈ ds, c.isDigit) : WholePart (Nat.digitChar d :: ds)

theorem wholePart_toDigits (n : ℕ) : WholePart (toDigits 10 n) := by
  rcases Nat.eq_zero_or_pos n with rfl | positive
  · exact .zero
  · obtain ⟨d, ds, h, low, high⟩ := toDigits_eq_cons positive
    have digits := Text.isDigit_toDigits n
    rw [h] at digits ⊢
    exact .positive low high fun c hc => digits c (by simp [hc])

def wholePhase (ds : List Char) : NumberPhase := if ds = ['0'] then .zero else .whole

def signText (negative : Bool) : List Char := if negative then ['-'] else []

section Parts

variable {ds : List Char} {tokens : List Token}

theorem scan_sign (h : WholePart ds) (negative : Bool) :
    Lexer.scan ⟨.number .sign { negative := negative }, tokens⟩ ds =
      some ⟨.number (wholePhase ds) { negative := negative, mantissa := ofDigitChars 10 ds 0 },
        tokens⟩ := by
  cases h with
  | zero => rfl
  | @positive d ds low high digits =>
    have notZero : Nat.digitChar d :: ds ≠ ['0'] := by
      intro h
      have := List.head_eq_of_cons_eq h
      interval_cases d <;> simp at this
    have step (n : Numeral) : Lexer.step ⟨.number .sign n, tokens⟩ (some (Nat.digitChar d)) =
        some ⟨.number .whole (n.pushWhole d), tokens⟩ := by
      refine step_of_advance ?_
      interval_cases d <;> rfl
    rw [Lexer.scan_cons, step, Option.bind_some,
      scan_digits (fun n c h => (advance_digit h).1) digits, pushAll_whole, wholePhase,
      if_neg notZero, Nat.ofDigitChars_cons_digitChar_of_lt_ten high]
    rfl

theorem WholePart.exists_cons (h : WholePart ds) : ∃ c cs, ds = c :: cs ∧ c.isDigit := by
  cases h with
  | zero => exact ⟨_, _, rfl, rfl⟩
  | positive low high digits => exact ⟨_, _, rfl, by simp [Nat.isDigit_digitChar, high]⟩

theorem scan_start (h : WholePart ds) (negative : Bool) :
    Lexer.scan ⟨.between, tokens⟩ (signText negative ++ ds) =
      some ⟨.number (wholePhase ds) { negative := negative, mantissa := ofDigitChars 10 ds 0 },
        tokens⟩ := by
  rw [← scan_sign h]
  cases negative with
  | true => rfl
  | false =>
    obtain ⟨c, cs, rfl, digit⟩ := h.exists_cons
    change (Lexer.begin tokens c).bind (·.scan cs) = _
    rw [begin_digit digit, Lexer.scan_cons]

theorem scan_fraction {phase : NumberPhase} (whole : phase = .zero ∨ phase = .whole)
    (digits : ∀ c ∈ ds, c.isDigit) (nonempty : ds ≠ []) (n : Numeral) :
    Lexer.scan ⟨.number phase n, tokens⟩ ('.' :: ds) =
      some ⟨.number .fraction
        { n with
          integral := false
          mantissa := ofDigitChars 10 ds n.mantissa
          fractionDigits := n.fractionDigits + ds.length }, tokens⟩ := by
  have step : Lexer.step ⟨.number phase n, tokens⟩ (some '.') = some ⟨.number .point n, tokens⟩ := by
    rcases whole with rfl | rfl <;> rfl
  rw [Lexer.scan_cons, step, Option.bind_some,
    scan_first_digits (fun n c h => (advance_digit h).2.1) (fun n c h => (advance_digit h).2.2.1)
      digits nonempty, pushAll_fraction nonempty]

/-- What may stand before the digits of an exponent. -/
def IsMark (mark : List Char) : Prop := mark = [] ∨ mark = ['+'] ∨ mark = ['-']

/-- A letter, perhaps a mark, and the digits of an exponent. -/
theorem scan_exponentPart {phase : NumberPhase}
    (mantissa : phase = .zero ∨ phase = .whole ∨ phase = .fraction) {n : Numeral}
    (none : n.exponent = 0) (positive : n.exponentNegative = false) {letter : Char}
    (begins : letter = 'e' ∨ letter = 'E') {mark : List Char} (marked : IsMark mark)
    (digits : ∀ c ∈ ds, c.isDigit) (nonempty : ds ≠ []) :
    Lexer.scan ⟨.number phase n, tokens⟩ (letter :: mark ++ ds) =
      some ⟨.number .exponentDigits
        { n with
          integral := false
          exponentNegative := decide (mark = ['-'])
          exponent := ofDigitChars 10 ds 0 }, tokens⟩ := by
  have step : Lexer.step ⟨.number phase n, tokens⟩ (some letter) =
      some ⟨.number .exponent n, tokens⟩ := by
    rcases begins with rfl | rfl <;> rcases mantissa with rfl | rfl | rfl <;> rfl
  have signed (m : Numeral) : Lexer.scan ⟨.number .exponentSign m, tokens⟩ ds =
      some ⟨.number .exponentDigits (pushAll Numeral.pushExponent ds m), tokens⟩ :=
    scan_first_digits (fun n c h => (advance_digit h).2.2.2.2.1)
      (fun n c h => (advance_digit h).2.2.2.2.2) digits nonempty m
  rw [List.cons_append, Lexer.scan_cons, step, Option.bind_some]
  rcases marked with rfl | rfl | rfl
  · rw [List.nil_append, scan_first_digits (fun n c h => (advance_digit h).2.2.2.1)
      (fun n c h => (advance_digit h).2.2.2.2.2) digits nonempty, pushAll_exponent nonempty]
    simp [none, positive]
  · have plus : Lexer.step ⟨.number .exponent n, tokens⟩ (some '+') =
        some ⟨.number .exponentSign n, tokens⟩ := rfl
    rw [List.singleton_append, Lexer.scan_cons, plus, Option.bind_some, signed,
      pushAll_exponent nonempty]
    simp [none, positive]
  · have minus : Lexer.step ⟨.number .exponent n, tokens⟩ (some '-') =
        some ⟨.number .exponentSign { n with exponentNegative := true }, tokens⟩ := rfl
    rw [List.singleton_append, Lexer.scan_cons, minus, Option.bind_some, signed,
      pushAll_exponent nonempty]
    simp [none]

theorem scan_exponent {phase : NumberPhase}
    (mantissa : phase = .zero ∨ phase = .whole ∨ phase = .fraction) {n : Numeral}
    (none : n.exponent = 0) (positive : n.exponentNegative = false) (e : ℤ) :
    Lexer.scan ⟨.number phase n, tokens⟩
        ('e' :: (if 0 ≤ e then ['+'] else []) ++ RealLayout.integer e) =
      some ⟨.number .exponentDigits
        { n with
          integral := false
          exponentNegative := decide (e < 0)
          exponent := e.natAbs }, tokens⟩ := by
  have text : (if 0 ≤ e then ['+'] else []) ++ RealLayout.integer e =
      (if e < 0 then ['-'] else ['+']) ++ toDigits 10 e.natAbs := by
    rw [RealLayout.integer]
    split_ifs <;> first | rfl | omega
  have marked : IsMark (if e < 0 then ['-'] else ['+']) := by
    split_ifs <;> simp [IsMark]
  have sign : ((if e < 0 then ['-'] else ['+']) = ['-']) ↔ e < 0 := by
    split_ifs <;> simp_all
  rw [List.cons_append, text, ← List.cons_append, scan_exponentPart mantissa none positive (.inl rfl)
    marked (Text.isDigit_toDigits _) Nat.toDigits_ne_nil, Nat.ofDigitChars_ten_toDigits]
  simp only [sign]

end Parts

/-! ### Written numbers -/

/-- A text between tokens is read as a numeral that may end there. -/
def Written (text : List Char) (n : Numeral) : Prop :=
  ∀ tokens, ∃ phase : NumberPhase, phase.complete ∧
    Lexer.scan ⟨.between, tokens⟩ text = some ⟨.number phase n, tokens⟩

def integerNumeral (k : ℤ) : Numeral := { negative := decide (k < 0), mantissa := k.natAbs }

theorem wholePhase_complete (ds : List Char) : (wholePhase ds).complete := by
  simp only [wholePhase]
  split_ifs <;> rfl

theorem written_integer (k : ℤ) : Written (RealLayout.integer k) (integerNumeral k) := by
  refine fun tokens => ⟨_, wholePhase_complete (toDigits 10 k.natAbs), ?_⟩
  have text : RealLayout.integer k = signText (decide (k < 0)) ++ toDigits 10 k.natAbs := by
    simp only [RealLayout.integer, signText, decide_eq_true_eq]
    split_ifs <;> rfl
  rw [text, scan_start (wholePart_toDigits _), Nat.ofDigitChars_ten_toDigits]
  rfl

theorem integer?_integerNumeral (k : ℤ) : (integerNumeral k).integer? = some k := by
  simp only [Numeral.integer?, integerNumeral]
  rcases lt_or_ge k 0 with negative | nonnegative
  · have nonzero : (k.natAbs == 0) = false := by
      rw [beq_eq_false_iff_ne]
      omega
    simp only [negative, decide_true, nonzero, Bool.and_false, Bool.not_true, Bool.or_false,
      Bool.false_eq_true, if_false, if_true]
    congr 1
    omega
  · simp only [not_lt.2 nonnegative, decide_false, Bool.false_and, Bool.not_true, Bool.or_false,
      Bool.false_eq_true, if_false]
    congr 1
    omega

theorem wholePhase_cases (ds : List Char) : wholePhase ds = .zero ∨ wholePhase ds = .whole := by
  simp only [wholePhase]
  split_ifs <;> simp

theorem written_fraction {whole fraction : List Char} (hwhole : WholePart whole)
    (digits : ∀ c ∈ fraction, c.isDigit) (nonempty : fraction ≠ []) (negative : Bool) :
    Written (signText negative ++ (whole ++ '.' :: fraction))
      { negative := negative
        integral := false
        mantissa := ofDigitChars 10 (whole ++ fraction) 0
        fractionDigits := fraction.length } := by
  refine fun tokens => ⟨.fraction, rfl, ?_⟩
  rw [← List.append_assoc, Lexer.scan_append, scan_start hwhole, Option.bind_some,
    scan_fraction (wholePhase_cases whole) digits nonempty, Nat.ofDigitChars_append, Nat.zero_add]

/-- A number with an exponent, and with digits behind the point or without. -/
theorem written_exponent {whole fraction : List Char} (hwhole : WholePart whole)
    (digits : ∀ c ∈ fraction, c.isDigit) (negative : Bool) (e : ℤ) :
    Written (signText negative ++ (whole ++ ((if fraction = [] then [] else '.' :: fraction) ++
        ('e' :: (if 0 ≤ e then ['+'] else []) ++ RealLayout.integer e))))
      { negative := negative
        integral := false
        mantissa := ofDigitChars 10 (whole ++ fraction) 0
        fractionDigits := fraction.length
        exponentNegative := decide (e < 0)
        exponent := e.natAbs } := by
  refine fun tokens => ⟨.exponentDigits, rfl, ?_⟩
  have phase := wholePhase_cases whole
  rw [← List.append_assoc, Lexer.scan_append, scan_start hwhole, Option.bind_some]
  by_cases empty : fraction = []
  · rw [if_pos empty, List.nil_append, scan_exponent (by tauto) rfl rfl, empty, List.append_nil]
    rfl
  · rw [if_neg empty, Lexer.scan_append, scan_fraction phase digits empty, Option.bind_some,
      scan_exponent (by tauto) rfl rfl, Nat.ofDigitChars_append, Nat.zero_add]

/-! ### Written double precision numbers -/

theorem length_toDigits_shortest (x : FiniteBinary64) :
    (toDigits 10 x.shortest.digits).length = x.shortest.count := by
  by_cases zero : x.significand = 0
  · simp only [FiniteBinary64.shortest, if_pos zero]
    rfl
  · have found := x.found_shortest zero
    have hcount := found.positive
    have upper := (Nat.length_toDigits_le_iff (by norm_num) hcount).2 found.most
    have least := found.least
    have some : 0 < (toDigits 10 x.shortest.digits).length := Nat.length_toDigits_pos
    rcases Nat.eq_or_lt_of_le (show 1 ≤ x.shortest.count from hcount) with one | more
    · omega
    · have lower := mt (Nat.length_toDigits_le_iff (show 1 < 10 by norm_num)
        (show 0 < x.shortest.count - 1 by omega)).1 (not_lt.2 least)
      omega

theorem WholePart.take {ds : List Char} (h : WholePart ds) {k : ℕ} (positive : 0 < k) :
    WholePart (ds.take k) := by
  obtain ⟨k, rfl⟩ : ∃ m, k = m + 1 := ⟨k - 1, by omega⟩
  cases h with
  | zero => simpa using WholePart.zero
  | positive low high digits =>
    exact .positive low high fun c hc => digits c (List.mem_of_mem_take hc)

/-- Zeros may follow the digits of a positive number. -/
theorem wholePart_append_zeros {n : ℕ} (positive : 0 < n) (k : ℕ) :
    WholePart (toDigits 10 n ++ List.replicate k '0') := by
  obtain ⟨d, ds, h, low, high⟩ := toDigits_eq_cons positive
  have digits := Text.isDigit_toDigits n
  rw [h] at digits ⊢
  refine .positive low high fun c hc => ?_
  rcases List.mem_append.1 hc with hc | hc
  · exact digits c (by simp [hc])
  · rw [(List.mem_replicate.1 hc).2]
    rfl

theorem isDigit_replicate_append {ds : List Char} (digits : ∀ c ∈ ds, c.isDigit) (k : ℕ) :
    ∀ c ∈ List.replicate k '0' ++ ds, c.isDigit := by
  intro c hc
  rcases List.mem_append.1 hc with hc | hc
  · rw [(List.mem_replicate.1 hc).2]
    rfl
  · exact digits c hc

section Layout

/-- A numeral whose digits are the decimal's and some zeros has its magnitude. -/
theorem magnitude_eq {m count digits k : ℕ} {point e : ℤ} {negative : Bool}
    (mantissa : m = digits * 10 ^ k) (exponent : e + k = point - count) :
    Decimal.magnitude ⟨negative, m, e⟩ = ShortDecimal.magnitude ⟨digits, count, point⟩ := by
  simp only [Decimal.magnitude, ShortDecimal.magnitude, mantissa, ← exponent]
  rw [zpow_add₀ (by norm_num), zpow_natCast]
  push_cast
  ring

variable {d : ShortDecimal} (negative : Bool)

/-- Some numeral is read from a text, and it has a fraction or an exponent, a sign
and a magnitude. -/
def WrittenReal (text : List Char) (negative : Bool) (magnitude : ℚ) : Prop :=
  ∃ n : Numeral, Written text n ∧ n.integral = false ∧ n.negative = negative ∧
    n.decimal.magnitude = magnitude

/-- A number below one tenth or so: zeros between the point and the digits. -/
theorem writtenReal_below_one (length : (toDigits 10 d.digits).length = d.count)
    (small : d.point ≤ 0) :
    WrittenReal (signText negative ++ ('0' :: '.' :: List.replicate (-d.point).toNat '0' ++
      toDigits 10 d.digits)) negative d.magnitude := by
  have zeros := isDigit_replicate_append (Text.isDigit_toDigits d.digits) (-d.point).toNat
  refine ⟨_, written_fraction .zero zeros (by simp) negative, rfl, rfl, magnitude_eq (k := 0) ?_ ?_⟩
  · rw [List.singleton_append, Nat.ofDigitChars_cons, Nat.ofDigitChars_append,
      Nat.ofDigitChars_replicate_zero]
    simp
  · simp only [List.length_append, List.length_replicate, length]
    push_cast
    omega

/-- A whole number: zeros between the digits and the point. -/
theorem writtenReal_whole (length : (toDigits 10 d.digits).length = d.count)
    (short : (toDigits 10 d.digits).length ≤ d.point.toNat)
    (zero : d.digits = 0 → d.point ≤ d.count) :
    WrittenReal (signText negative ++ (toDigits 10 d.digits ++
      List.replicate (d.point.toNat - (toDigits 10 d.digits).length) '0' ++ ['.', '0']))
      negative d.magnitude := by
  have whole : WholePart (toDigits 10 d.digits ++
      List.replicate (d.point.toNat - (toDigits 10 d.digits).length) '0') := by
    rcases Nat.eq_zero_or_pos d.digits with h | positive
    · have := zero h
      rw [show d.point.toNat - (toDigits 10 d.digits).length = 0 by omega, List.replicate_zero,
        List.append_nil]
      exact wholePart_toDigits _
    · exact wholePart_append_zeros positive _
  have zeroDigit : ∀ c ∈ ['0'], c.isDigit := by simp
  refine ⟨_, written_fraction whole zeroDigit (by simp) negative, rfl, rfl,
    magnitude_eq (k := d.point.toNat - (toDigits 10 d.digits).length + 1) ?_ ?_⟩
  · rw [Nat.ofDigitChars_append, Nat.ofDigitChars_append, Nat.ofDigitChars_replicate_zero,
      Nat.ofDigitChars_ten_toDigits, Nat.ofDigitChars_cons, Nat.ofDigitChars_nil, Nat.sub_self,
      pow_succ]
    ring
  · have some : 0 < (toDigits 10 d.digits).length := Nat.length_toDigits_pos
    simp only [List.length_singleton, Bool.false_eq_true, if_false]
    omega

theorem writtenReal_mixed (length : (toDigits 10 d.digits).length = d.count) (positive : 0 < d.point)
    (long : d.point.toNat < (toDigits 10 d.digits).length) :
    WrittenReal (signText negative ++ ((toDigits 10 d.digits).take d.point.toNat ++
      '.' :: (toDigits 10 d.digits).drop d.point.toNat)) negative d.magnitude := by
  have digits := Text.isDigit_toDigits d.digits
  refine ⟨_, written_fraction ((wholePart_toDigits _).take (by omega))
    (fun c hc => digits c (List.mem_of_mem_drop hc)) ?_ negative, rfl, rfl,
    magnitude_eq (k := 0) ?_ ?_⟩
  · rw [ne_eq, List.drop_eq_nil_iff]
    omega
  · rw [List.take_append_drop, Nat.ofDigitChars_ten_toDigits, pow_zero, Nat.mul_one]
  · simp only [List.length_drop, Bool.false_eq_true, if_false]
    omega

theorem writtenReal_exponent (length : (toDigits 10 d.digits).length = d.count) :
    WrittenReal (signText negative ++ ((toDigits 10 d.digits).take 1 ++
      (if (toDigits 10 d.digits).length ≤ 1 then [] else '.' :: (toDigits 10 d.digits).drop 1) ++
      'e' :: (if 0 ≤ d.point - 1 then ['+'] else []) ++ RealLayout.integer (d.point - 1)))
      negative d.magnitude := by
  have digits := Text.isDigit_toDigits d.digits
  have some : 0 < (toDigits 10 d.digits).length := Nat.length_toDigits_pos
  have written := written_exponent ((wholePart_toDigits d.digits).take one_pos)
    (fun c hc => digits c (List.mem_of_mem_drop (i := 1) hc)) negative (d.point - 1)
  simp only [List.drop_eq_nil_iff, List.take_append_drop, Nat.ofDigitChars_ten_toDigits] at written
  rw [List.append_assoc, List.append_assoc]
  refine ⟨_, written, rfl, rfl, magnitude_eq (k := 0) ?_ ?_⟩
  · rw [pow_zero, Nat.mul_one]
  · simp only [List.length_drop, decide_eq_true_eq]
    split_ifs <;> omega

/-- The text of a shortest decimal is read as a number of its magnitude. -/
theorem writtenReal_decimal (length : (toDigits 10 d.digits).length = d.count)
    (zero : d.digits = 0 → d.point ≤ d.count) :
    WrittenReal (signText negative ++ realLayout.decimal d) negative d.magnitude := by
  simp only [RealLayout.decimal, realLayout]
  by_cases inPlace : -5 < d.point ∧ d.point ≤ 16
  · rw [if_pos inPlace]
    by_cases small : d.point ≤ 0
    · rw [if_pos small]
      exact writtenReal_below_one negative length small
    rw [if_neg small]
    by_cases short : (toDigits 10 d.digits).length ≤ d.point.toNat
    · rw [if_pos short]
      exact writtenReal_whole negative length short zero
    · rw [if_neg short]
      exact writtenReal_mixed negative length (by omega) (by omega)
  · rw [if_neg inPlace]
    exact writtenReal_exponent negative length

end Layout

theorem nearest_of_magnitude_zero {d : Decimal} (x : FiniteBinary64) (zero : x.significand = 0)
    (sign : d.negative = x.negative) (magnitude : d.magnitude = 0) : d.nearest = .finite x := by
  have mantissa : d.mantissa = 0 := by
    have power : (10 : ℚ) ^ d.exponent ≠ 0 := by positivity
    exact_mod_cast (mul_eq_zero.1 magnitude).resolve_right power
  obtain ⟨negative, significand, scale, canonical⟩ := x
  obtain rfl : significand = 0 := zero
  obtain rfl : scale = 0 := by
    obtain ⟨-, -, h | h⟩ := canonicalSignificand_iff.1 canonical
    · exact h
    · omega
  simp only [Decimal.nearest, if_pos mantissa, sign]
  rfl

/-- A finite number is read back from its text. -/
theorem written_real (x : FiniteBinary64) :
    ∃ n : Numeral, Written (realLayout.real (.finite x)) n ∧ n.integral = false ∧
      n.decimal.nearest = .finite x := by
  have point (h : x.shortest.digits = 0) : x.shortest.point ≤ x.shortest.count := by
    by_cases zero : x.significand = 0
    · simp only [FiniteBinary64.shortest, if_pos zero]
      norm_num
    · have := (x.found_shortest zero).least
      have := Nat.pos_of_ne_zero (by positivity : 10 ^ (x.shortest.count - 1) ≠ 0)
      omega
  obtain ⟨n, written, integral, sign, magnitude⟩ :=
    writtenReal_decimal x.negative (length_toDigits_shortest x) point
  refine ⟨n, written, integral, ?_⟩
  by_cases zero : x.significand = 0
  · refine nearest_of_magnitude_zero x zero sign ?_
    rw [magnitude]
    simp only [FiniteBinary64.shortest, if_pos zero, ShortDecimal.magnitude, Nat.cast_zero, zero_mul]
  · refine Decimal.nearest_of_contains x sign zero ?_
    rw [magnitude]
    exact (x.found_shortest zero).contains

end DetectionMerge.Json
