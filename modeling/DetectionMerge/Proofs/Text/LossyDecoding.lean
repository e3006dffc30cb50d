import DetectionMerge.Proofs.Text.Utf8

/-! Bytes decoded piece by piece. No ASCII byte belongs to the encoding of a longer
character, valid or not, so it stands for itself wherever it comes and what precedes it
is decoded without regard to what follows. In particular the lines of a text are the
decoded lines of its bytes. The same holds of the first byte of any character, so a text
behind any bytes is decoded as itself. -/

namespace DetectionMerge.Text.Utf8

/-! ### The states of the reader -/

/-- The states between the bytes of a sequence. Inside a character the next byte is none
of ASCII, and the bits so far are those of a character beyond ASCII. -/
def Reached : State → Prop
  | .start => True
  | .inside value owed low _ =>
    0x80 ≤ low.toNat ∧ 0x80 ≤ (value * 64 + (low.toNat - 0x80)) * 64 ^ owed

theorem reached_start : Reached .start := trivial

theorem reached_first (b : UInt8) : Reached (first b).1 := by
  simp only [first, UInt8.lt_iff_toNat_lt, ← UInt8.toNat_inj, UInt8.reduceToNat]
  -- The second byte's lower bound makes up for a first byte without bits.
  split_ifs <;> simp only [Reached, UInt8.reduceToNat] <;> omega

theorem Reached.step {state : State} (h : Reached state) (b : UInt8) :
    Reached (step state b).1 := by
  cases state with
  | start => exact reached_first b
  | inside value owed low high =>
    simp only [Utf8.step]
    split_ifs with within
    · cases owed with
      | zero => trivial
      | succ owed =>
        have least : low.toNat ≤ b.toNat := UInt8.le_iff_toNat_le.1 within.1
        refine ⟨le_rfl, h.2.trans ?_⟩
        simp only [UInt8.reduceToNat, Nat.sub_self, Nat.add_zero, pow_succ', ← Nat.mul_assoc]
        exact Nat.mul_le_mul_right _ (Nat.mul_le_mul_right _ (by omega))
    · exact reached_first b

/-! ### ASCII bytes -/

section Ascii

variable {b : UInt8} {bytes more : List UInt8} {state : State}

/-- An ASCII byte ends what was begun, and stands for itself. -/
theorem scan_ascii (ascii : b < 0x80) (h : Reached state) :
    scan state (b :: bytes) = scan state [] ++ some (Char.ofNat b.toNat) :: scan .start bytes := by
  have itself : first b = (.start, [some (Char.ofNat b.toNat)]) := if_pos ascii
  rw [scan_cons]
  cases state with
  | start => simp [step, itself, scan]
  | inside value owed low high =>
    have outside : ¬(low ≤ b ∧ b ≤ high) := by
      have least := h.1
      simp only [UInt8.lt_iff_toNat_lt, UInt8.le_iff_toNat_le, UInt8.reduceToNat] at ascii ⊢
      omega
    simp [step, outside, itself, scan]

theorem scan_append_ascii (ascii : b < 0x80) (h : Reached state) :
    scan state (bytes ++ b :: more) =
      scan state bytes ++ some (Char.ofNat b.toNat) :: scan .start more := by
  induction bytes generalizing state with
  | nil => exact scan_ascii ascii h
  | cons byte bytes ih => rw [List.cons_append, scan_cons, scan_cons, ih (h.step byte),
      List.append_assoc]

/-- What precedes an ASCII byte is decoded as if nothing followed it. -/
theorem decodeLossy_append_ascii (ascii : b < 0x80) :
    decodeLossy (bytes ++ b :: more) =
      decodeLossy bytes ++ Char.ofNat b.toNat :: decodeLossy more := by
  simp only [decodeLossy, symbols, scan_append_ascii ascii reached_start,
    List.map_append, List.map_cons, Option.getD_some]

theorem decodeLossy_concat_ascii (ascii : b < 0x80) :
    decodeLossy (bytes ++ [b]) = decodeLossy bytes ++ [Char.ofNat b.toNat] :=
  decodeLossy_append_ascii ascii

end Ascii

/-! ### Line feeds -/

theorem ofNat_ne_lineFeed {n : ℕ} (h : n ≠ 0x0A) : Char.ofNat n ≠ '\n' := by
  intro same
  by_cases valid : n.isValidChar
  · have value := congrArg Char.toNat same
    rw [Char.ofNat, dif_pos valid] at value
    exact h value
  · rw [Char.ofNat, dif_neg valid] at same
    cases same

theorem lineFeed_not_mem_first {b : UInt8} (other : b ≠ 0x0A) : some '\n' ∉ (first b).2 := by
  have value : Char.ofNat b.toNat ≠ '\n' :=
    ofNat_ne_lineFeed fun same => other (UInt8.toNat_inj.1 same)
  unfold first
  split_ifs <;> simp [value.symm]

theorem lineFeed_not_mem_step {state : State} {b : UInt8} (h : Reached state) (other : b ≠ 0x0A) :
    some '\n' ∉ (step state b).2 := by
  cases state with
  | start => exact lineFeed_not_mem_first other
  | inside value owed low high =>
    simp only [step]
    split_ifs with within
    · cases owed with
      | zero =>
        have least : low.toNat ≤ b.toNat := UInt8.le_iff_toNat_le.1 within.1
        have beyond := h.2
        rw [pow_zero, Nat.mul_one] at beyond
        have value := ofNat_ne_lineFeed (n := value * 64 + (b.toNat - 0x80)) (by omega)
        simpa using value.symm
      | succ owed => simp
    · simpa using lineFeed_not_mem_first other

theorem lineFeed_not_mem_scan {state : State} {bytes : List UInt8} (h : Reached state)
    (single : (0x0A : UInt8) ∉ bytes) : some '\n' ∉ scan state bytes := by
  induction bytes generalizing state with
  | nil => cases state <;> simp [scan]
  | cons b bytes ih =>
    rw [List.mem_cons, not_or] at single
    rw [scan_cons, List.mem_append, not_or]
    exact ⟨lineFeed_not_mem_step h (Ne.symm single.1), ih (h.step b) single.2⟩

/-- Decoding makes no line feeds, neither of valid bytes nor of others. -/
theorem lineFeed_not_mem_decodeLossy {bytes : List UInt8} (single : (0x0A : UInt8) ∉ bytes) :
    '\n' ∉ decodeLossy bytes := by
  intro member
  obtain ⟨symbol, inside, same⟩ := List.mem_map.1 member
  cases symbol with
  | none => cases same
  | some c =>
    obtain rfl : c = '\n' := same
    exact lineFeed_not_mem_scan reached_start single inside

/-- The decoded lines are the lines of the decoded text. -/
theorem decodeLossy_intercalate (lines : List (List UInt8)) :
    decodeLossy ([0x0A].intercalate lines) = ['\n'].intercalate (lines.map decodeLossy) := by
  induction lines with
  | nil => rfl
  | cons line lines ih =>
    cases lines with
    | nil => rw [List.intercalate_singleton, List.map_singleton, List.intercalate_singleton]
    | cons next lines =>
      rw [List.map_cons] at ih ⊢
      rw [List.map_cons, List.intercalate_cons_cons, List.intercalate_cons_cons, ← ih,
        List.append_assoc, List.singleton_append, decodeLossy_append_ascii (by decide),
        List.append_assoc]
      rfl

/-- Bytes that are valid throughout are decoded as the text that they encode. -/
theorem decodeLossy_encode (text : List Char) : decodeLossy (encode text) = text := by
  simp [decodeLossy, symbols_encode]

/-! ### Characters of all lengths -/

/-- Inside a character the next byte is not above those that go on with one. -/
def Bounded : State → Prop
  | .start => True
  | .inside _ _ _ high => high.toNat ≤ 0xBF

theorem bounded_first (b : UInt8) : Bounded (first b).1 := by
  unfold first
  split_ifs <;> simp [Bounded]

theorem Bounded.step {state : State} (h : Bounded state) (b : UInt8) :
    Bounded (step state b).1 := by
  cases state with
  | start => exact bounded_first b
  | inside value owed low high =>
    simp only [Utf8.step]
    split_ifs
    · cases owed with
      | zero => trivial
      | succ owed => exact le_rfl
    · exact bounded_first b

/-- A character begins with a byte that goes on with none. -/
theorem exists_encodeChar_eq_cons (c : Char) :
    ∃ b bytes, String.utf8EncodeChar c = b :: bytes ∧ (b.toNat < 0x80 ∨ 0xBF < b.toNat) := by
  have range := scalar c
  by_cases h1 : c.toNat ≤ 0x7F
  · exact ⟨_, _, encodeChar_one h1, .inl (by rw [toNat_ofNat] <;> omega)⟩
  by_cases h2 : c.toNat ≤ 0x7FF
  · exact ⟨_, _, encodeChar_two h1 h2, .inr (by rw [toNat_ofNat] <;> omega)⟩
  by_cases h3 : c.toNat ≤ 0xFFFF
  · exact ⟨_, _, encodeChar_three h1 h2 h3, .inr (by rw [toNat_ofNat] <;> omega)⟩
  · exact ⟨_, _, encodeChar_four h1 h2 h3, .inr (by rw [toNat_ofNat] <;> omega)⟩

/-- The encoding of a character ends what was begun, and is read as the character. -/
theorem scan_append_encodeChar {state : State} {bytes : List UInt8} (c : Char)
    (reached : Reached state) (bounded : Bounded state) :
    scan state (String.utf8EncodeChar c ++ bytes) = scan state [] ++ some c :: scan .start bytes := by
  cases state with
  | start => rw [scan_encodeChar, scan, List.nil_append]
  | inside value owed low high =>
    rw [← scan_encodeChar]
    obtain ⟨b, more, encoding, other⟩ := exists_encodeChar_eq_cons c
    have outside : ¬(low ≤ b ∧ b ≤ high) := by
      have least := reached.1
      have greatest : high.toNat ≤ 0xBF := bounded
      rw [UInt8.le_iff_toNat_le, UInt8.le_iff_toNat_le]
      omega
    rw [encoding, List.cons_append, scan_cons, scan_cons]
    simp [step, outside, scan]

theorem scan_append_encode {state : State} {bytes : List UInt8} (text : List Char)
    (reached : Reached state) (bounded : Bounded state) :
    scan state (bytes ++ encode text) = scan state bytes ++ text.map some := by
  induction bytes generalizing state with
  | nil =>
    cases text with
    | nil => exact (List.append_nil _).symm
    | cons c text =>
      rw [List.nil_append, encode_cons, scan_append_encodeChar c reached bounded, List.map_cons]
      exact congrArg (_ ++ some c :: ·) (symbols_encode text)
  | cons b bytes ih =>
    rw [List.cons_append, scan_cons, scan_cons, ih (reached.step b) (bounded.step b),
      List.append_assoc]

/-- Bytes are decoded as if no text followed them. -/
theorem decodeLossy_append_encode (bytes : List UInt8) (text : List Char) :
    decodeLossy (bytes ++ encode text) = decodeLossy bytes ++ text := by
  rw [decodeLossy, symbols, scan_append_encode text reached_start trivial, List.map_append,
    List.map_map]
  exact congrArg (_ ++ ·) (List.map_id' text)

end DetectionMerge.Text.Utf8
