import DetectionMerge.Text.Utf8
import Mathlib.Tactic

/-! UTF-8 written and read. The reader gives back every text that was encoded,
and the encoding keeps the order of texts: bytes compare as characters do. -/

namespace DetectionMerge.Text.Utf8

/-! ### Bytes of a character -/

/-- A byte of a sequence that follows the first one. -/
def tail (n : ℕ) : UInt8 := UInt8.ofNat (n % 64 + 0x80)

section Encode

variable {c : Char}

theorem encodeChar_one (h : c.toNat ≤ 0x7F) :
    String.utf8EncodeChar c = [UInt8.ofNat c.toNat] := if_pos h

theorem encodeChar_two (h1 : ¬c.toNat ≤ 0x7F) (h2 : c.toNat ≤ 0x7FF) :
    String.utf8EncodeChar c = [UInt8.ofNat (c.toNat / 64 % 32 + 0xC0), tail c.toNat] :=
  (if_neg h1).trans (if_pos h2)

theorem encodeChar_three (h1 : ¬c.toNat ≤ 0x7F) (h2 : ¬c.toNat ≤ 0x7FF) (h3 : c.toNat ≤ 0xFFFF) :
    String.utf8EncodeChar c =
      [UInt8.ofNat (c.toNat / 4096 % 16 + 0xE0), tail (c.toNat / 64), tail c.toNat] :=
  (if_neg h1).trans ((if_neg h2).trans (if_pos h3))

theorem encodeChar_four (h1 : ¬c.toNat ≤ 0x7F) (h2 : ¬c.toNat ≤ 0x7FF) (h3 : ¬c.toNat ≤ 0xFFFF) :
    String.utf8EncodeChar c =
      [UInt8.ofNat (c.toNat / 262144 % 8 + 0xF0), tail (c.toNat / 4096), tail (c.toNat / 64),
        tail c.toNat] :=
  (if_neg h1).trans ((if_neg h2).trans (if_neg h3))

end Encode

/-! ### Steps of the reader -/

theorem toNat_ofNat {n : ℕ} (h : n < 256) : (UInt8.ofNat n).toNat = n := by
  simp [UInt8.toNat_ofNat', Nat.mod_eq_of_lt h]

theorem first_ascii {n : ℕ} (h : n < 0x80) :
    first (UInt8.ofNat n) = (.start, [some (Char.ofNat n)]) := by
  have value : (UInt8.ofNat n).toNat = n := toNat_ofNat (by omega)
  have small : UInt8.ofNat n < 0x80 := by
    rw [UInt8.lt_iff_toNat_lt, value]
    exact h
  simp only [first, if_pos small, value]

theorem first_two {a : ℕ} (low : 2 ≤ a) (high : a < 32) :
    first (UInt8.ofNat (a + 0xC0)) = (.inside a 0 0x80 0xBF, []) := by
  interval_cases a <;> rfl

theorem first_three {a : ℕ} (high : a < 16) :
    first (UInt8.ofNat (a + 0xE0)) =
      (.inside a 1 (if a = 0 then 0xA0 else 0x80) (if a = 13 then 0x9F else 0xBF), []) := by
  interval_cases a <;> rfl

theorem first_four {a : ℕ} (high : a < 5) :
    first (UInt8.ofNat (a + 0xF0)) =
      (.inside a 2 (if a = 0 then 0x90 else 0x80) (if a = 4 then 0x8F else 0xBF), []) := by
  interval_cases a <;> rfl

section Tail

variable {value n : ℕ} {low high : UInt8}

theorem tail_toNat (n : ℕ) : (tail n).toNat = n % 64 + 0x80 := toNat_ofNat (by omega)

theorem tail_within (hlow : low.toNat ≤ n % 64 + 0x80) (hhigh : n % 64 + 0x80 ≤ high.toNat) :
    low ≤ tail n ∧ tail n ≤ high := by
  rw [UInt8.le_iff_toNat_le, UInt8.le_iff_toNat_le, tail_toNat]
  exact ⟨hlow, hhigh⟩

/-- The last byte adds its six bits and completes the character. -/
theorem step_last (hlow : low.toNat ≤ n % 64 + 0x80) (hhigh : n % 64 + 0x80 ≤ high.toNat) :
    step (.inside value 0 low high) (tail n) =
      (.start, [some (Char.ofNat (value * 64 + n % 64))]) := by
  simp only [step, if_pos (tail_within hlow hhigh), tail_toNat, Nat.add_sub_cancel]

theorem step_more (owed : ℕ) (hlow : low.toNat ≤ n % 64 + 0x80)
    (hhigh : n % 64 + 0x80 ≤ high.toNat) :
    step (.inside value (owed + 1) low high) (tail n) =
      (.inside (value * 64 + n % 64) owed 0x80 0xBF, []) := by
  simp only [step, if_pos (tail_within hlow hhigh), tail_toNat, Nat.add_sub_cancel]

end Tail

/-! ### Reading what was written -/

@[simp] theorem scan_cons (state : State) (b : UInt8) (bytes : List UInt8) :
    scan state (b :: bytes) = (step state b).2 ++ scan (step state b).1 bytes := by
  cases state <;> rfl

/-- The scalar values of characters have a gap for the surrogates. -/
theorem scalar (c : Char) : c.toNat < 0xD800 ∨ 0xDFFF < c.toNat ∧ c.toNat < 0x110000 := c.valid

/-- The bytes between bounds that do not depend on the first byte. -/
theorem usual_bounds (n : ℕ) :
    (0x80 : UInt8).toNat ≤ n % 64 + 0x80 ∧ n % 64 + 0x80 ≤ (0xBF : UInt8).toNat := by
  simp only [UInt8.reduceToNat]
  omega

/-- A character is read back from its bytes, whatever follows. -/
theorem scan_encodeChar (c : Char) (bytes : List UInt8) :
    scan .start (String.utf8EncodeChar c ++ bytes) = some c :: scan .start bytes := by
  have range := scalar c
  have self (n : ℕ) (h : n = c.toNat) : Char.ofNat n = c := h ▸ Char.ofNat_toNat c
  have usual := usual_bounds c.toNat
  have usual' := usual_bounds (c.toNat / 64)
  by_cases h1 : c.toNat ≤ 0x7F
  · rw [encodeChar_one h1, List.singleton_append, scan_cons, step, first_ascii (by omega),
      self _ rfl]
    rfl
  by_cases h2 : c.toNat ≤ 0x7FF
  · rw [encodeChar_two h1 h2, List.cons_append, scan_cons, step, first_two (by omega) (by omega),
      List.singleton_append, scan_cons, step_last usual.1 usual.2, self _ (by omega)]
    rfl
  by_cases h3 : c.toNat ≤ 0xFFFF
  · rw [encodeChar_three h1 h2 h3, List.cons_append, scan_cons, step, first_three (by omega),
      List.cons_append, scan_cons, step_more, List.singleton_append, scan_cons,
      step_last usual.1 usual.2, self _ (by omega)]
    · rfl
    · split_ifs <;> simp only [UInt8.reduceToNat] <;> omega
    · split_ifs <;> simp only [UInt8.reduceToNat] <;> omega
  · rw [encodeChar_four h1 h2 h3, List.cons_append, scan_cons, step, first_four (by omega),
      List.cons_append, scan_cons, step_more, List.cons_append, scan_cons,
      step_more 0 usual'.1 usual'.2, List.singleton_append, scan_cons,
      step_last usual.1 usual.2, self _ (by omega)]
    · rfl
    · split_ifs <;> simp only [UInt8.reduceToNat] <;> omega
    · split_ifs <;> simp only [UInt8.reduceToNat] <;> omega

/-- The reader gives back every text that was encoded. -/
theorem symbols_encode (text : List Char) : symbols (encode text) = text.map some := by
  induction text with
  | nil => rfl
  | cons c text ih =>
    rw [encode, List.flatMap_cons, symbols, scan_encodeChar]
    exact congrArg (some c :: ·) ih

/-- The bytes of a text are valid, and the text is what they say. -/
theorem decode?_encode (text : List Char) : decode? (encode text) = some text := by
  rw [decode?, symbols_encode, List.mapM_map]
  induction text with
  | nil => rfl
  | cons c text ih =>
    rw [List.mapM_cons, ih]
    rfl

/-! ### The order of texts -/

theorem ofNat_lt {m n : ℕ} (hm : m < 256) (hn : n < 256) :
    UInt8.ofNat m < UInt8.ofNat n ↔ m < n := by
  rw [UInt8.lt_iff_toNat_lt, toNat_ofNat hm, toNat_ofNat hn]

theorem ofNat_inj {m n : ℕ} (hm : m < 256) (hn : n < 256) :
    UInt8.ofNat m = UInt8.ofNat n ↔ m = n := by
  rw [← UInt8.toNat_inj, toNat_ofNat hm, toNat_ofNat hn]

theorem tail_lt {m n : ℕ} : tail m < tail n ↔ m % 64 < n % 64 := by
  rw [tail, tail, ofNat_lt (by omega) (by omega), Nat.add_lt_add_iff_right]

theorem tail_inj {m n : ℕ} : tail m = tail n ↔ m % 64 = n % 64 := by
  rw [tail, tail, ofNat_inj (by omega) (by omega), Nat.add_right_cancel_iff]

/-- A smaller first byte decides the order. -/
theorem cons_lt_cons {m n : ℕ} (h : m < n) (hn : n < 256) (x y : List UInt8) :
    UInt8.ofNat m :: x < UInt8.ofNat n :: y :=
  List.cons_lt_cons_iff.2 (.inl ((ofNat_lt (h.trans hn) hn).2 h))

/-- The first digit in which two numbers differ decides their order. -/
theorem div_lt_or_mod_lt {m n : ℕ} (h : m < n) :
    m / 64 < n / 64 ∨ m / 64 = n / 64 ∧ m % 64 < n % 64 := by
  omega

/-- The bytes of a smaller character are smaller, whatever follows them. A
longer encoding has a greater first byte. -/
theorem encodeChar_append_lt {c d : Char} (h : c.toNat < d.toNat) (x y : List UInt8) :
    String.utf8EncodeChar c ++ x < String.utf8EncodeChar d ++ y := by
  have hd := scalar d
  by_cases d1 : d.toNat ≤ 0x7F
  · rw [encodeChar_one d1, encodeChar_one (by omega)]
    exact cons_lt_cons h (by omega) _ _
  by_cases d2 : d.toNat ≤ 0x7FF
  · rw [encodeChar_two d1 d2]
    by_cases c1 : c.toNat ≤ 0x7F
    · rw [encodeChar_one c1]
      exact cons_lt_cons (by omega) (by omega) _ _
    · rw [encodeChar_two c1 (by omega)]
      simp only [List.cons_append, List.nil_append, List.cons_lt_cons_iff, tail_lt, tail_inj]
      rw [ofNat_lt (by omega) (by omega), ofNat_inj (by omega) (by omega)]
      omega
  by_cases d3 : d.toNat ≤ 0xFFFF
  · rw [encodeChar_three d1 d2 d3]
    by_cases c1 : c.toNat ≤ 0x7F
    · rw [encodeChar_one c1]
      exact cons_lt_cons (by omega) (by omega) _ _
    by_cases c2 : c.toNat ≤ 0x7FF
    · rw [encodeChar_two c1 c2]
      exact cons_lt_cons (by omega) (by omega) _ _
    · rw [encodeChar_three c1 c2 (by omega)]
      simp only [List.cons_append, List.nil_append, List.cons_lt_cons_iff, tail_lt, tail_inj]
      rw [ofNat_lt (by omega) (by omega), ofNat_inj (by omega) (by omega)]
      omega
  · rw [encodeChar_four d1 d2 d3]
    by_cases c1 : c.toNat ≤ 0x7F
    · rw [encodeChar_one c1]
      exact cons_lt_cons (by omega) (by omega) _ _
    by_cases c2 : c.toNat ≤ 0x7FF
    · rw [encodeChar_two c1 c2]
      exact cons_lt_cons (by omega) (by omega) _ _
    by_cases c3 : c.toNat ≤ 0xFFFF
    · rw [encodeChar_three c1 c2 c3]
      exact cons_lt_cons (by omega) (by omega) _ _
    · rw [encodeChar_four c1 c2 c3]
      simp only [List.cons_append, List.nil_append, List.cons_lt_cons_iff, tail_lt, tail_inj]
      rw [ofNat_lt (by omega) (by omega), ofNat_inj (by omega) (by omega)]
      obtain upper | ⟨_, last⟩ := div_lt_or_mod_lt h
      · obtain upper | ⟨_, third⟩ := div_lt_or_mod_lt upper
        · obtain upper | ⟨_, second⟩ := div_lt_or_mod_lt upper
          · exact .inl (by omega)
          · exact .inr ⟨by omega, .inl (by omega)⟩
        · exact .inr ⟨by omega, .inr ⟨by omega, .inl third⟩⟩
      · exact .inr ⟨by omega, .inr ⟨by omega, .inr ⟨by omega, .inl last⟩⟩⟩

theorem encode_cons (c : Char) (text : List Char) :
    encode (c :: text) = String.utf8EncodeChar c ++ encode text := List.flatMap_cons

theorem encode_lt_encode {a b : List Char} (h : a < b) : encode a < encode b := by
  induction a generalizing b with
  | nil =>
    cases b with
    | nil => exact absurd h (List.lt_irrefl _)
    | cons d b =>
      rw [encode_cons]
      cases bytes : String.utf8EncodeChar d with
      | nil => exact absurd bytes (String.utf8EncodeChar_ne_nil)
      | cons byte bytes => exact List.nil_lt_cons _ _
  | cons c a ih =>
    cases b with
    | nil => exact absurd h (List.not_lt_nil _)
    | cons d b =>
      rw [encode_cons, encode_cons]
      obtain first | ⟨rfl, rest⟩ := List.cons_lt_cons_iff.1 h
      · exact encodeChar_append_lt first _ _
      · exact List.append_left_lt (ih rest)

theorem encode_lt_encode_iff {a b : List Char} : encode a < encode b ↔ a < b := by
  refine ⟨fun h => ?_, encode_lt_encode⟩
  by_contra other
  obtain greater | rfl := List.le_iff_lt_or_eq.1 (List.not_lt.1 other)
  · exact List.lt_asymm h (encode_lt_encode greater)
  · exact List.lt_irrefl _ h

end DetectionMerge.Text.Utf8
