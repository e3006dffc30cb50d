import DetectionMerge.Proofs.Text.Utf8
import DetectionMerge.Proofs.Traversal
import DetectionMerge.Text.System

/-! Texts of the operating system that are texts. Their bytes are read as one text at
most, and this text has no other bytes: what is read as a character are the bytes that
encode it. The order of the bytes is the order of the texts. -/

namespace DetectionMerge

namespace Text.Utf8

/-! ### The bytes of a character by its number -/

section Number

variable {n a t u v : ℕ}

theorem toNat_charOfNat (valid : n.isValidChar) : (Char.ofNat n).toNat = n := by
  rw [Char.ofNat, dif_pos valid]
  rfl

theorem encodeChar_ofNat_one (small : n < 0x80) :
    String.utf8EncodeChar (Char.ofNat n) = [UInt8.ofNat n] := by
  have number : (Char.ofNat n).toNat = n := toNat_charOfNat (.inl (by omega))
  rw [encodeChar_one (by omega), number]

theorem encodeChar_ofNat_two (low : 2 ≤ a) (high : a < 32) (ht : t < 64) :
    String.utf8EncodeChar (Char.ofNat (a * 64 + t)) = [UInt8.ofNat (a + 0xC0), tail t] := by
  have number := toNat_charOfNat (n := a * 64 + t) (.inl (by omega))
  rw [encodeChar_two (by omega) (by omega), number,
    show (a * 64 + t) / 64 % 32 = a by omega,
    tail_inj.2 (show (a * 64 + t) % 64 = t % 64 by omega)]

theorem encodeChar_ofNat_three (low : 0x800 ≤ (a * 64 + t) * 64 + u) (high : a < 16)
    (ht : t < 64) (hu : u < 64) (valid : ((a * 64 + t) * 64 + u).isValidChar) :
    String.utf8EncodeChar (Char.ofNat ((a * 64 + t) * 64 + u)) =
      [UInt8.ofNat (a + 0xE0), tail t, tail u] := by
  have number := toNat_charOfNat valid
  rw [encodeChar_three (by omega) (by omega) (by omega), number,
    show ((a * 64 + t) * 64 + u) / 4096 % 16 = a by omega,
    tail_inj.2 (show ((a * 64 + t) * 64 + u) / 64 % 64 = t % 64 by omega),
    tail_inj.2 (show ((a * 64 + t) * 64 + u) % 64 = u % 64 by omega)]

theorem encodeChar_ofNat_four (low : 0x10000 ≤ ((a * 64 + t) * 64 + u) * 64 + v) (high : a < 5)
    (ht : t < 64) (hu : u < 64) (hv : v < 64)
    (valid : (((a * 64 + t) * 64 + u) * 64 + v).isValidChar) :
    String.utf8EncodeChar (Char.ofNat (((a * 64 + t) * 64 + u) * 64 + v)) =
      [UInt8.ofNat (a + 0xF0), tail t, tail u, tail v] := by
  have number := toNat_charOfNat valid
  rw [encodeChar_four (by omega) (by omega) (by omega), number,
    show (((a * 64 + t) * 64 + u) * 64 + v) / 262144 % 8 = a by omega,
    tail_inj.2 (show (((a * 64 + t) * 64 + u) * 64 + v) / 4096 % 64 = t % 64 by omega),
    tail_inj.2 (show (((a * 64 + t) * 64 + u) * 64 + v) / 64 % 64 = u % 64 by omega),
    tail_inj.2 (show (((a * 64 + t) * 64 + u) * 64 + v) % 64 = v % 64 by omega)]

end Number

/-! ### The bytes of what is read -/

variable {value owed : ℕ} {low high b : UInt8} {bytes : List UInt8} {c : Char}
  {rest : List Symbol}

/-- Where a character goes on, the next byte is one that follows a first one, and within
bounds. -/
theorem exists_tail_of_scan (reads : scan (.inside value owed low high) bytes = some c :: rest)
    (hlow : 0x80 ≤ low.toNat) (hhigh : high.toNat ≤ 0xBF) :
    ∃ t more, bytes = tail t :: more ∧ t < 64 ∧ low.toNat ≤ t + 0x80 ∧ t + 0x80 ≤ high.toNat ∧
      (match owed with
        | 0 => c = Char.ofNat (value * 64 + t) ∧ scan .start more = rest
        | owed + 1 => scan (.inside (value * 64 + t) owed 0x80 0xBF) more = some c :: rest) := by
  cases bytes with
  | nil => simp [scan] at reads
  | cons b more =>
    by_cases within : low ≤ b ∧ b ≤ high
    · have least := UInt8.le_iff_toNat_le.1 within.1
      have most := UInt8.le_iff_toNat_le.1 within.2
      have spelled : b = tail (b.toNat - 0x80) := by
        rw [← UInt8.toNat_inj, tail_toNat]
        omega
      refine ⟨b.toNat - 0x80, more, by rw [← spelled], by omega, by omega, by omega, ?_⟩
      cases owed with
      | zero =>
        simp only [scan_cons, step, if_pos within, List.singleton_append, List.cons.injEq,
          Option.some.injEq] at reads
        exact ⟨reads.1.symm, reads.2⟩
      | succ owed => simpa only [scan_cons, step, if_pos within, List.nil_append] using reads
    · simp [step, if_neg within] at reads

/-- What a byte between characters can be: a character, the first of two, three or four
bytes, or no part of a character. -/
theorem first_cases (b : UInt8) :
    (b.toNat < 0x80 ∧ first b = (.start, [some (Char.ofNat b.toNat)])) ∨
    (∃ a, 2 ≤ a ∧ a < 32 ∧ b = UInt8.ofNat (a + 0xC0)) ∨
    (∃ a < 16, b = UInt8.ofNat (a + 0xE0)) ∨
    (∃ a < 5, b = UInt8.ofNat (a + 0xF0)) ∨
    first b = (.start, [none]) := by
  have within (low : ℕ) (h : low ≤ b.toNat) : b = UInt8.ofNat (b.toNat - low + low) := by
    rw [Nat.sub_add_cancel h, UInt8.ofNat_toNat]
  simp only [first, UInt8.lt_iff_toNat_lt, UInt8.reduceToNat]
  by_cases h1 : b.toNat < 0x80
  · exact .inl ⟨h1, if_pos h1⟩
  by_cases h2 : b.toNat < 0xC2
  · exact .inr (.inr (.inr (.inr ((if_neg h1).trans (if_pos h2)))))
  by_cases h3 : b.toNat < 0xE0
  · exact .inr (.inl ⟨_, by omega, by omega, within 0xC0 (by omega)⟩)
  by_cases h4 : b.toNat < 0xF0
  · exact .inr (.inr (.inl ⟨_, by omega, within 0xE0 (by omega)⟩))
  by_cases h5 : b.toNat < 0xF5
  · exact .inr (.inr (.inr (.inl ⟨_, by omega, within 0xF0 (by omega)⟩)))
  · exact .inr (.inr (.inr (.inr ((if_neg h1).trans ((if_neg h2).trans ((if_neg h3).trans
      ((if_neg h4).trans (if_neg h5))))))))

/-- What is read as a character between characters are the bytes that encode it. -/
theorem exists_encodeChar_of_scan (scanned : scan .start bytes = some c :: rest) :
    ∃ more, bytes = String.utf8EncodeChar c ++ more ∧ scan .start more = rest := by
  cases bytes with
  | nil => cases scanned
  | cons b bytes =>
    rw [scan_cons, step] at scanned
    obtain ⟨ascii, first⟩ | ⟨a, low, high, rfl⟩ | ⟨a, high, rfl⟩ | ⟨a, high, rfl⟩ | first :=
      first_cases b
    · simp only [first, List.singleton_append, List.cons.injEq, Option.some.injEq] at scanned
      obtain ⟨rfl, reads⟩ := scanned
      refine ⟨bytes, ?_, reads⟩
      rw [encodeChar_ofNat_one ascii, UInt8.ofNat_toNat, List.singleton_append]
    · simp only [first_two low high, List.nil_append] at scanned
      obtain ⟨t, more, rfl, ht, -, -, rfl, reads⟩ :=
        exists_tail_of_scan scanned (by decide) (by decide)
      refine ⟨more, ?_, reads⟩
      rw [encodeChar_ofNat_two low high ht]
      rfl
    · simp only [first_three high, List.nil_append] at scanned
      obtain ⟨t, more, rfl, ht, least, most, second⟩ :=
        exists_tail_of_scan scanned (by split_ifs <;> decide) (by split_ifs <;> decide)
      obtain ⟨u, more, rfl, hu, -, -, rfl, reads⟩ :=
        exists_tail_of_scan second (by decide) (by decide)
      -- The bounds of the second byte leave out short numbers and the surrogates.
      have range : 0x800 ≤ (a * 64 + t) * 64 + u ∧ ((a * 64 + t) * 64 + u).isValidChar := by
        rw [Nat.isValidChar]
        split_ifs at least most <;> simp only [UInt8.reduceToNat] at least most <;> omega
      refine ⟨more, ?_, reads⟩
      rw [encodeChar_ofNat_three range.1 high ht hu range.2]
      rfl
    · simp only [first_four high, List.nil_append] at scanned
      obtain ⟨t, more, rfl, ht, least, most, second⟩ :=
        exists_tail_of_scan scanned (by split_ifs <;> decide) (by split_ifs <;> decide)
      obtain ⟨u, more, rfl, hu, -, -, third⟩ :=
        exists_tail_of_scan second (by decide) (by decide)
      obtain ⟨v, more, rfl, hv, -, -, rfl, reads⟩ :=
        exists_tail_of_scan third (by decide) (by decide)
      have range : 0x10000 ≤ ((a * 64 + t) * 64 + u) * 64 + v ∧
          (((a * 64 + t) * 64 + u) * 64 + v).isValidChar := by
        rw [Nat.isValidChar]
        split_ifs at least most <;> simp only [UInt8.reduceToNat] at least most <;> omega
      refine ⟨more, ?_, reads⟩
      rw [encodeChar_ofNat_four range.1 high ht hu hv range.2]
      rfl
    · simp [first] at scanned

theorem step_ne_start (state : State) (b : UInt8) : step state b ≠ (.start, []) := by
  unfold step first
  repeat' split
  all_goals simp

theorem scan_eq_nil {state : State} (nothing : scan state bytes = []) :
    state = .start ∧ bytes = [] := by
  induction bytes generalizing state with
  | nil =>
    cases state with
    | start => exact ⟨rfl, rfl⟩
    | inside => cases nothing
  | cons b bytes ih =>
    rw [scan_cons, List.append_eq_nil_iff] at nothing
    exact absurd (Prod.ext (ih nothing.2).1 nothing.1) (step_ne_start state b)

/-- A text has no other bytes than those of its encoding. -/
theorem encode_of_symbols {text : List Char} (reads : symbols bytes = text.map some) :
    encode text = bytes := by
  rw [symbols] at reads
  induction text generalizing bytes with
  | nil => rw [(scan_eq_nil reads).2, encode, List.flatMap_nil]
  | cons c text ih =>
    rw [List.map_cons] at reads
    obtain ⟨more, rfl, rest⟩ := exists_encodeChar_of_scan reads
    rw [encode_cons, ih rest]

theorem symbols_of_decode? {text : List Char} (valid : decode? bytes = some text) :
    symbols bytes = text.map some := by
  have pairs : List.Forall₂ (· = ·) (symbols bytes) (text.map some) :=
    List.forall₂_map_right_iff.2 (Traversal.mapM_eq_some_iff.1 valid)
  rwa [List.forall₂_eq_eq_eq] at pairs

theorem decode?_eq_some_iff {text : List Char} :
    decode? bytes = some text ↔ encode text = bytes := by
  refine ⟨fun valid => encode_of_symbols (symbols_of_decode? valid), ?_⟩
  rintro rfl
  exact decode?_encode text

theorem encode_injective : Function.Injective encode := by
  intro a b same
  have read := decode?_encode a
  rw [same, decode?_encode b] at read
  exact (Option.some.inj read).symm

end Text.Utf8

namespace SystemText

variable {a b c t : SystemText} {s : String}

/-! ### Texts among the texts of the system -/

/-- A text of the system is the encoding of the text that it is. -/
theorem text?_eq_some_iff : t.text? = some s ↔ t = ofString s := by
  rw [text?, Option.map_eq_some_iff]
  constructor
  · rintro ⟨chars, valid, rfl⟩
    rw [ofString, String.toList_ofList, Text.Utf8.decode?_eq_some_iff.1 valid]
  · rintro rfl
    exact ⟨s.toList, Text.Utf8.decode?_encode _, String.ofList_toList⟩

@[simp] theorem text?_ofString (s : String) : (ofString s).text? = some s := text?_eq_some_iff.2 rfl

theorem ofString_injective : Function.Injective ofString := by
  intro x y same
  have read := text?_ofString x
  rw [same, text?_ofString] at read
  exact (Option.some.inj read).symm

@[simp] theorem ofString_inj {x y : String} : ofString x = ofString y ↔ x = y :=
  ofString_injective.eq_iff

/-! ### Their order -/

theorem le_iff_bytes : a ≤ b ↔ a.bytes ≤ b.bytes := Iff.rfl

theorem le_trans (hab : a ≤ b) (hbc : b ≤ c) : a ≤ c := List.le_trans hab hbc

theorem le_total (a b : SystemText) : a ≤ b ∨ b ≤ a := List.le_total a.bytes b.bytes

theorem le_antisymm (hab : a ≤ b) (hba : b ≤ a) : a = b := by
  cases a
  cases b
  exact congrArg mk (List.le_antisymm hab hba)

end SystemText

end DetectionMerge
