import DetectionMerge.Proofs.Json.Literal
import DetectionMerge.Proofs.Number.Truncation
import DetectionMerge.Record.Detection

/-! Class labels. A label is an integer of 64 bits or the integer part of the nearest
double precision number. Both ways lead to the same category, since integers near the
classes are rounded to themselves and all others stay beyond the last class or below the
first one. So only the value of a literal counts, not its spelling. -/

namespace DetectionMerge

open FiniteBinary64 (unitsPerOne)
open Binary64 (IsNearest)

/-! ### Class numbers -/

theorem toInt_ofInt_of_range {n : ℤ} (low : Int64.minValue.toInt ≤ n)
    (high : n ≤ Int64.maxValue.toInt) : (Int64.ofInt n).toInt = n := by
  rw [Int64.toInt_minValue] at low
  rw [Int64.toInt_maxValue] at high
  exact Int64.toInt_ofInt_of_le low (by omega)

namespace Category

/-- The category id of a class number of any size. -/
def ofInt? (n : ℤ) : Option UInt32 := if n < 0 then none else ids[n.toNat]?

theorem ofLabel?_eq (label : Int64) : ofLabel? label = ofInt? label.toInt := rfl

theorem ofInt?_natCast (k : ℕ) : ofInt? k = ids[k]? := by
  rw [ofInt?, if_neg (by omega), Int.toNat_natCast]

theorem ofInt?_eq_none_iff (n : ℤ) : ofInt? n = none ↔ n < 0 ∨ 80 ≤ n := by
  rw [ofInt?]
  split_ifs with negative
  · exact iff_of_true rfl (.inl negative)
  · rw [List.getElem?_eq_none_iff, show ids.length = 80 from rfl]
    omega

/-- Every class has a category of its own. -/
theorem ofInt?_eq_iff (n : ℤ) {k : ℕ} (known : k < 80) : ofInt? n = ids[k]? ↔ n = k := by
  constructor
  · intro same
    have distinct : ids.Nodup := by decide
    have some : ¬(n < 0 ∨ 80 ≤ n) := by
      rw [← ofInt?_eq_none_iff, same, List.getElem?_eq_none_iff]
      exact not_le.2 known
    rw [ofInt?, if_neg (by omega)] at same
    have inside : n.toNat < ids.length := by
      rw [show ids.length = 80 from rfl]
      omega
    have index : n.toNat = k := (List.getElem?_inj inside distinct).1 same
    omega
  · rintro rfl
    exact ofInt?_natCast k

/-- Saturated numbers have no category, as the numbers that they stand for. -/
theorem ofLabel?_saturate (n : ℤ) : ofLabel? (saturate n) = ofInt? n := by
  rw [ofLabel?_eq, saturate]
  split_ifs with low high
  · rw [(ofInt?_eq_none_iff n).2 (.inl (low.trans (by decide)))]
    rfl
  · rw [(ofInt?_eq_none_iff n).2 (.inr (high.le.trans' (by decide)))]
    rfl
  · rw [toInt_ofInt_of_range (not_lt.1 low) (not_lt.1 high)]

/-- What the lookup answers to a number: cutting off the fraction gives the class. -/
structure Answers (d : ℚ) (answer : Option UInt32) : Prop where
  first : answer = ids[0]? ↔ -1 < d ∧ d < 1
  further : ∀ k : ℕ, 1 ≤ k → k < 80 → (answer = ids[k]? ↔ k ≤ d ∧ d < k + 1)
  nothing : answer = none ↔ d ≤ -1 ∨ 80 ≤ d

theorem answers_truncate (x : FiniteBinary64) : Answers x.value (ofInt? x.truncate) where
  first := by
    have above := x.le_truncate_iff (k := 1) one_pos
    have below := x.truncate_le_iff (k := -1) (by norm_num)
    rw [ofInt?_eq_iff _ (by norm_num)]
    push_cast at above below ⊢
    rw [← not_le, ← not_le, ← above, ← below]
    omega
  further k positive known := by
    have low := x.le_truncate_iff (k := k) (by omega)
    have high := x.le_truncate_iff (k := k + 1) (by omega)
    rw [ofInt?_eq_iff _ known]
    push_cast at low high
    rw [← not_le, ← low, ← high]
    omega
  nothing := by
    have above := x.le_truncate_iff (k := 80) (by norm_num)
    have below := x.truncate_le_iff (k := -1) (by norm_num)
    rw [ofInt?_eq_none_iff]
    push_cast at above below
    rw [← above, ← below]
    omega

/-- A natural number with a sign has the category of the number that it is rounded to. -/
theorem ofInt?_truncate {negative : Bool} {m : ℕ} {x : FiniteBinary64}
    (h : IsNearest negative (unitsPerOne * m) (.finite x)) :
    ofInt? x.truncate = ofInt? (if negative then -m else m) := by
  have one : 0 < unitsPerOne := Nat.cast_pos.1 Decimal.unitsPerOne_pos
  rw [x.truncate_eq, h.negative_eq]
  rcases Nat.lt_or_ge m 80 with small | large
  · rw [h.magnitude_of_small (by omega), Nat.mul_div_cancel _ one]
  · have quotient : 80 ≤ x.magnitude / unitsPerOne := by
      rw [Nat.le_div_iff_mul_le one]
      have above : (80 : ℚ) ≤ m := by exact_mod_cast large
      exact h.mul_le_magnitude (by norm_num)
        (mul_le_mul_of_nonneg_left above Decimal.unitsPerOne_pos.le)
    have beyond (n : ℕ) (high : 80 ≤ n) : ofInt? (if negative then -n else n) = none := by
      rw [ofInt?_eq_none_iff]
      split_ifs <;> omega
    rw [beyond _ quotient, beyond m large]

end Category

/-! ### Labels -/

theorem Json.Numeral.integer?_eq_some {n : Numeral} {k : ℤ} (h : n.integer? = some k) :
    n.integral ∧ k = if n.negative then -(n.mantissa : ℤ) else n.mantissa := by
  rw [integer?] at h
  split_ifs at h with none sign <;> simp_all

theorem Json.int64?_eq_some {v : Json} {label : Int64} (h : v.int64? = some label) :
    v.integer? = some label.toInt := by
  obtain ⟨k, integer, range⟩ := Option.bind_eq_some_iff.1 h
  split_ifs at range with inside
  obtain rfl := Option.some.inj range
  rwa [toInt_ofInt_of_range inside.1 inside.2]

namespace CornerDetection

variable (l : Json.Literal)

/-- An integer literal that is a label is the number that is rounded. -/
theorem integer_of_int64? {label : Int64}
    (h : (Json.number l.numeral).int64? = some label) :
    l.magnitude = l.numeral.mantissa ∧
      label.toInt = if l.negative then -(l.numeral.mantissa : ℤ) else l.numeral.mantissa := by
  obtain ⟨integral, value⟩ := Json.Numeral.integer?_eq_some (Json.int64?_eq_some h)
  exact ⟨l.magnitude_of_isInteger integral, value⟩

theorem lt_overflow_of_int64? {label : Int64} (h : (Json.number l.numeral).int64? = some label) :
    unitsPerOne * l.magnitude < Binary64.overflow := by
  obtain ⟨magnitude, value⟩ := integer_of_int64? l h
  have low := Int64.le_toInt label
  have high := Int64.toInt_lt label
  have bits : l.numeral.mantissa ≤ 2 ^ 63 := by
    split_ifs at value <;> omega
  have multiple (k : ℕ) : 2 ^ k ≤ (2 ^ 54 - 1) * 2 ^ k := Nat.le_mul_of_pos_left _ (by norm_num)
  have least : 2 ^ 2044 ≤ Binary64.overflow := by simpa only [Binary64.overflow] using multiple 2044
  rw [magnitude]
  calc (unitsPerOne : ℚ) * l.numeral.mantissa ≤ unitsPerOne * 2 ^ 63 :=
        mul_le_mul_of_nonneg_left (by exact_mod_cast bits) Decimal.unitsPerOne_pos.le
    _ = 2 ^ (1074 + 63) := by rw [Decimal.unitsPerOne_cast, pow_add]
    _ < 2 ^ 2044 := pow_lt_pow_right₀ (by norm_num) (by norm_num)
    _ ≤ Binary64.overflow := by exact_mod_cast least

/-- A literal is refused as a label if it overflows. Otherwise its label has the category
of the nearest number without its fraction. -/
theorem label?_numeral :
    (Binary64.overflow ≤ unitsPerOne * l.magnitude ∧ label? (.number l.numeral) = none) ∨
      ∃ x label, IsNearest l.negative (unitsPerOne * l.magnitude) (.finite x) ∧
        label? (.number l.numeral) = some label ∧
        Category.ofLabel? label = Category.ofInt? x.truncate := by
  have near : IsNearest l.negative (unitsPerOne * l.magnitude) l.numeral.decimal.nearest :=
    l.magnitude_decimal ▸ l.numeral.decimal.isNearest_nearest
  have read : (Json.number l.numeral).real? = l.numeral.decimal.finite? := rfl
  rw [label?, read, Decimal.finite?]
  cases nearest : l.numeral.decimal.nearest with
  | finite x =>
    rw [nearest] at near
    refine .inr ⟨x, ?_⟩
    cases integer : (Json.number l.numeral).int64? with
    | some label =>
      obtain ⟨magnitude, value⟩ := integer_of_int64? l integer
      refine ⟨label, near, rfl, ?_⟩
      rw [magnitude] at near
      rw [Category.ofLabel?_eq, value, Category.ofInt?_truncate near]
    | none => exact ⟨saturate x.truncate, near, rfl, Category.ofLabel?_saturate _⟩
  | infinite negative =>
    rw [nearest] at near
    have overflow : Binary64.overflow ≤ unitsPerOne * l.magnitude := by
      cases near with
      | infinite range => exact range
    cases integer : (Json.number l.numeral).int64? with
    | some label => exact absurd (lt_overflow_of_int64? l integer) (not_lt.2 overflow)
    | none => exact .inl ⟨overflow, rfl⟩
  | nan =>
    rw [nearest] at near
    cases near

/-- Literals of the same value have labels of the same category, or none has a label. -/
theorem label?_of_value_eq {a b : Json.Literal} (same : a.value = b.value) :
    label? (.number a.numeral) = none ∧ label? (.number b.numeral) = none ∨
      ∃ labelA labelB, label? (.number a.numeral) = some labelA ∧
        label? (.number b.numeral) = some labelB ∧
        Category.ofLabel? labelA = Category.ofLabel? labelB := by
  have magnitude := Json.Literal.magnitude_of_value same
  obtain ⟨overflow, refused⟩ | ⟨x, labelA, nearA, readA, categoryA⟩ := label?_numeral a <;>
    obtain ⟨overflow', refused'⟩ | ⟨y, labelB, nearB, readB, categoryB⟩ := label?_numeral b
  · exact .inl ⟨refused, refused'⟩
  · cases nearB with
    | finite _ _ range => exact absurd range (not_lt.2 (magnitude ▸ overflow))
  · cases nearA with
    | finite _ _ range => exact absurd range (not_lt.2 (magnitude ▸ overflow'))
  · refine .inr ⟨labelA, labelB, readA, readB, ?_⟩
    rw [categoryA, categoryB]
    rw [magnitude] at nearA
    by_cases sign : a.negative = b.negative
    · rw [sign] at nearA
      cases nearA.unique nearB
      rfl
    · have zero : b.magnitude = (0 : ℕ) := by
        rw [Json.Literal.magnitude_eq_zero same sign, Nat.cast_zero]
      rw [zero] at nearA nearB
      rw [Category.ofInt?_truncate nearA, Category.ofInt?_truncate nearB, Nat.cast_zero, neg_zero,
        ite_self, ite_self]

end CornerDetection

/-! ### Records without their label -/

/-- A record with a place for its label: an array without its fifth item, or an object
without one of its labels. -/
inductive LabelFrame
  | array (before after : List Json) (fifth : before.length = 4)
  | object (before : List (Json.RawText × Json)) (key : Json.RawText)
    (after : List (Json.RawText × Json)) (named : key.decode? = some "label".toList)

namespace LabelFrame

def fill : LabelFrame → Json → Json
  | .array before after _, v => .array (before ++ v :: after)
  | .object before key after _, v => .object (before ++ (key, v) :: after)

theorem member?_of_ne {before after : List (String × Json)} {key other : String} {v : Json}
    (different : key ≠ other) :
    Json.member? (before ++ (key, v) :: after) other = Json.member? (before ++ after) other := by
  rw [Json.member?, Json.member?, List.filter_append, List.filter_append,
    List.filter_cons_of_neg (by simpa using different)]

theorem member?_self (before after : List (String × Json)) (key : String) (v : Json) :
    Json.member? (before ++ (key, v) :: after) key =
      if (before ++ after).filter (·.1 = key) = [] then some v else none := by
  rw [Json.member?, List.filter_append, List.filter_append, List.filter_cons_of_pos (by simp)]
  generalize before.filter (·.1 = key) = first, after.filter (·.1 = key) = last
  rcases first with _ | ⟨_, _ | ⟨_, _⟩⟩ <;> rcases last with _ | ⟨_, _⟩ <;> simp

theorem fields?_fill (frame : LabelFrame) :
    (∀ v, (frame.fill v).fields? CornerDetection.keys = none) ∨
      ∃ x1 y1 x2 y2 confidence, ∀ v,
        (frame.fill v).fields? CornerDetection.keys = some [x1, y1, x2, y2, v, confidence] := by
  cases frame with
  | array before after fifth =>
    obtain ⟨x1, y1, x2, y2, rfl⟩ : ∃ x1 y1 x2 y2, before = [x1, y1, x2, y2] := by
      match before, fifth with
      | [x1, y1, x2, y2], _ => exact ⟨x1, y1, x2, y2, rfl⟩
    match after with
    | [confidence] => exact .inr ⟨x1, y1, x2, y2, confidence, fun v => rfl⟩
    | [] => exact .inl fun v => rfl
    | _ :: _ :: _ => exact .inl fun v => by simp [fill, Json.fields?, CornerDetection.keys]
  | object before key after named =>
    let decoded (members : List (Json.RawText × Json)) := members.mapM fun m =>
      (Json.RawText.decode? m.1).map fun k => (String.ofList k, m.2)
    have fields (v : Json) : ((object before key after named).fill v).fields? CornerDetection.keys =
        (decoded before).bind fun first => (decoded after).bind fun last =>
          CornerDetection.keys.mapM (Json.member? (first ++ ("label", v) :: last)) := by
      simp only [fill, Json.fields?, List.mapM_append, List.mapM_cons, named, decoded,
        Option.bind_eq_bind, Option.bind_assoc, Option.map_some, Option.bind_some,
        String.ofList_toList, Option.pure_def]
    simp only [fields]
    rcases decoded before with _ | first
    · exact .inl fun v => rfl
    rcases decoded after with _ | last
    · exact .inl fun v => rfl
    simp only [Option.bind_some, CornerDetection.keys, List.mapM_cons, List.mapM_nil, member?_self,
      member?_of_ne (show "label" ≠ "x1" by decide), member?_of_ne (show "label" ≠ "y1" by decide),
      member?_of_ne (show "label" ≠ "x2" by decide), member?_of_ne (show "label" ≠ "y2" by decide),
      member?_of_ne (show "label" ≠ "conf" by decide)]
    generalize first ++ last = others
    rcases Json.member? others "x1" with _ | x1
    · exact .inl fun v => rfl
    rcases Json.member? others "y1" with _ | y1
    · exact .inl fun v => rfl
    rcases Json.member? others "x2" with _ | x2
    · exact .inl fun v => rfl
    rcases Json.member? others "y2" with _ | y2
    · exact .inl fun v => rfl
    by_cases only : others.filter (·.1 = "label") = []
    · rcases Json.member? others "conf" with _ | confidence
      · exact .inl fun v => by rw [if_pos only]; rfl
      · exact .inr ⟨x1, y1, x2, y2, confidence, fun v => by rw [if_pos only]; rfl⟩
    · exact .inl fun v => by rw [if_neg only]; rfl

/-- A record is refused whatever its label, or its label is all that it needs. -/
theorem ofJson?_fill (frame : LabelFrame) :
    (∀ v, CornerDetection.ofJson? (frame.fill v) = none) ∨
      ∃ box : CornerDetection, ∀ v, CornerDetection.ofJson? (frame.fill v) =
        (CornerDetection.label? v).map fun label => { box with label := label } := by
  obtain refused | ⟨x1, y1, x2, y2, confidence, fields⟩ := frame.fields?_fill
  · exact .inl fun v => by rw [CornerDetection.ofJson?, refused]; rfl
  · have decoded (v : Json) : CornerDetection.ofJson? (frame.fill v) =
        x1.real?.bind fun x1 => y1.real?.bind fun y1 => x2.real?.bind fun x2 =>
          y2.real?.bind fun y2 => (CornerDetection.label? v).bind fun label =>
            confidence.real?.bind fun confidence =>
              some ⟨x1, y1, x2, y2, label, confidence⟩ := by
      rw [CornerDetection.ofJson?, fields]
      rfl
    simp only [decoded]
    rcases x1.real? with _ | x1
    · exact .inl fun v => rfl
    rcases y1.real? with _ | y1
    · exact .inl fun v => rfl
    rcases x2.real? with _ | x2
    · exact .inl fun v => rfl
    rcases y2.real? with _ | y2
    · exact .inl fun v => rfl
    rcases confidence.real? with _ | confidence
    · exact .inl fun v => by cases CornerDetection.label? v <;> rfl
    · refine .inr ⟨⟨x1, y1, x2, y2, 0, confidence⟩, fun v => ?_⟩
      cases CornerDetection.label? v <;> rfl

end LabelFrame

/-- Two literals of the same value, however they are written, are refused alike as the
label of a record, or both are read and their labels have the same category. The category
of a label is that of the nearest double precision number without its fraction, so a
number above the last class or below the first one has none, however large it is. A
record that needs nothing but its label is refused only for a label that overflows. -/
theorem CornerDetection.category_of_value_eq {a b : Json.Literal} (same : a.value = b.value)
    (frame : LabelFrame) :
    (Json.ofText? a.text = some (.number a.numeral) ∧
      Json.ofText? b.text = some (.number b.numeral)) ∧
    (ofJson? (frame.fill (.number a.numeral)) = none ∧
        ofJson? (frame.fill (.number b.numeral)) = none ∨
      ∃ boxA boxB, ofJson? (frame.fill (.number a.numeral)) = some boxA ∧
        ofJson? (frame.fill (.number b.numeral)) = some boxB ∧
        Category.ofLabel? boxA.label = Category.ofLabel? boxB.label) ∧
    (∀ box, ofJson? (frame.fill (.number a.numeral)) = some box →
      ∃ d : FiniteBinary64, IsNearest a.negative (unitsPerOne * |a.value|) (.finite d) ∧
        Category.Answers d.value (Category.ofLabel? box.label)) ∧
    ((∃ v, ofJson? (frame.fill v) ≠ none) →
      (ofJson? (frame.fill (.number a.numeral)) = none ↔
        Binary64.overflow ≤ unitsPerOne * |a.value|)) := by
  refine ⟨⟨a.ofText?_text, b.ofText?_text⟩, ?_⟩
  rw [a.abs_value]
  obtain refused | ⟨other, decoded⟩ := frame.ofJson?_fill
  · refine ⟨.inl ⟨refused _, refused _⟩, fun box read => ?_, fun ⟨v, accepted⟩ => ?_⟩
    · cases (refused _).symm.trans read
    · exact absurd (refused v) accepted
  · simp only [decoded]
    refine ⟨?_, fun box read => ?_, fun _ => ?_⟩
    · obtain ⟨noneA, noneB⟩ | ⟨labelA, labelB, readA, readB, category⟩ := label?_of_value_eq same
      · exact .inl ⟨by rw [noneA, Option.map_none], by rw [noneB, Option.map_none]⟩
      · refine .inr ⟨{ other with label := labelA }, { other with label := labelB }, ?_, ?_,
          category⟩
        · rw [readA, Option.map_some]
        · rw [readB, Option.map_some]
    · obtain ⟨label, readLabel, rfl⟩ := Option.map_eq_some_iff.1 read
      obtain ⟨-, refused⟩ | ⟨d, label', near, readLabel', category⟩ := label?_numeral a
      · cases refused.symm.trans readLabel
      · obtain rfl := Option.some.inj (readLabel'.symm.trans readLabel)
        refine ⟨d, near, ?_⟩
        rw [category]
        exact Category.answers_truncate d
    · rw [Option.map_eq_none_iff]
      obtain ⟨overflow, refused⟩ | ⟨d, label, near, read, -⟩ := label?_numeral a
      · exact iff_of_true refused overflow
      · cases near with
        | finite _ _ range =>
          exact iff_of_false (by rw [read]; exact Option.some_ne_none _) (not_le.2 range)

/-- A class number just below the next class, with its fraction in place. -/
def sampleLiteral : Json.Literal where
  negative := false
  whole := ['7', '9']
  fraction := ['5']
  exponent := none
  wholePart := .positive (d := 7) (by norm_num) (by norm_num) (by simp)
  isDigit := by simp

/-- The same number with an exponent. -/
def sampleLiteral' : Json.Literal where
  negative := false
  whole := ['7', '9', '5']
  fraction := []
  exponent := some ⟨'E', ['-'], ['0', '1'], .inr rfl, .inr (.inr rfl), by simp, by simp⟩
  wholePart := .positive (d := 7) (by norm_num) (by norm_num) (by simp)
  isDigit := by simp

def sampleFrame : LabelFrame :=
  .array (List.replicate 4 (.number { mantissa := 1 })) [.number { mantissa := 1 }] rfl

theorem CornerDetection.category_of_sampleLiteral :
    sampleLiteral.value = sampleLiteral'.value ∧
      ∃ boxA boxB, ofJson? (sampleFrame.fill (.number sampleLiteral.numeral)) = some boxA ∧
        ofJson? (sampleFrame.fill (.number sampleLiteral'.numeral)) = some boxB ∧
        Category.ofLabel? boxA.label = some 90 ∧
        Category.ofLabel? boxA.label = Category.ofLabel? boxB.label := by
  have same : sampleLiteral.value = sampleLiteral'.value := by
    have digits : Nat.ofDigitChars 10 ['7', '9', '5'] 0 = 795 := rfl
    have places : Nat.ofDigitChars 10 ['0', '1'] 0 = 1 := rfl
    simp [Json.Literal.value, Json.Literal.magnitude, Json.Literal.Exponent.value, sampleLiteral,
      sampleLiteral', digits, places]
  have first : ((ofJson? (sampleFrame.fill (.number sampleLiteral.numeral))).map fun box =>
      Category.ofLabel? box.label) = some (some 90) := by
    decide +kernel
  obtain ⟨-, ⟨none, -⟩ | ⟨boxA, boxB, readA, readB, category⟩, -⟩ :=
    category_of_value_eq same sampleFrame
  · rw [none] at first
    cases first
  · rw [readA] at first
    exact ⟨same, boxA, boxB, readA, readB, Option.some.inj first, category⟩

end DetectionMerge
