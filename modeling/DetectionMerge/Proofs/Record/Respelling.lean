import DetectionMerge.Proofs.Json.Fields
import DetectionMerge.Proofs.Json.Grammar
import DetectionMerge.Record.Detection
import DetectionMerge.Record.Image

/-! The texts of a record. A record is read from the values of its keys and from nothing else
in the text: neither the order of the members, nor white space, nor the spelling of a key,
nor a member of another key makes a difference, however much such a member holds. -/

namespace DetectionMerge

open Json (RawText Rearranged valuesOf)

/-- The records that are read from JSON text. -/
inductive RecordKind
  /-- An annotation file. -/
  | annotations
  /-- An image of an annotation file. -/
  | image
  /-- A detection as a detector writes it. -/
  | corners
  /-- A detection of the results file. -/
  | detection
  deriving DecidableEq, Repr

namespace RecordKind

def Record : RecordKind → Type
  | .annotations => List ImageRecord
  | .image => ImageRecord
  | .corners => CornerDetection
  | .detection => Detection

def keys : RecordKind → List String
  | .annotations => ["images"]
  | .image => ["file_name", "id"]
  | .corners => CornerDetection.keys
  | .detection => Detection.keys

def ofJson? : (kind : RecordKind) → Json → Option kind.Record
  | .annotations => ImageRecord.listOfJson?
  | .image => ImageRecord.ofJson?
  | .corners => CornerDetection.ofJson?
  | .detection => Detection.ofJson?

def ofText? (kind : RecordKind) (text : List Char) : Option kind.Record :=
  (Json.ofText? text).bind kind.ofJson?

variable {kind : RecordKind} {v v' : Json} {text text' : List Char}

/-! ### Only the fields count -/

theorem exists_ofJson?_eq (kind : RecordKind) :
    ∃ make, ∀ v, kind.ofJson? v = (v.fields? kind.keys).bind make := by
  cases kind <;> exact ⟨_, fun _ => rfl⟩

theorem ofJson?_congr (same : v.fields? kind.keys = v'.fields? kind.keys) :
    kind.ofJson? v = kind.ofJson? v' := by
  obtain ⟨make, eq⟩ := exists_ofJson?_eq kind
  rw [eq, eq, same]

theorem ofText?_of_spelledBy (spelled : v.SpelledBy text) : kind.ofText? text = kind.ofJson? v := by
  rw [ofText?, Json.ofText?_of_spelledBy spelled, Option.bind_some]

theorem ofText?_congr (same : v.fields? kind.keys = v'.fields? kind.keys)
    (spelled : v.SpelledBy text) (spelled' : v'.SpelledBy text') :
    kind.ofText? text = kind.ofText? text' := by
  rw [ofText?_of_spelledBy spelled, ofText?_of_spelledBy spelled', ofJson?_congr same]

theorem ofText?_eq_none (without : v.fields? kind.keys = none) (spelled : v.SpelledBy text) :
    kind.ofText? text = none := by
  obtain ⟨make, eq⟩ := exists_ofJson?_eq kind
  rw [ofText?_of_spelledBy spelled, eq, without, Option.bind_none]

theorem ofText?_eq_some_iff {r : kind.Record} :
    kind.ofText? text = some r ↔ ∃ v, v.SpelledBy text ∧ kind.ofJson? v = some r := by
  simp only [ofText?, Option.bind_eq_some_iff, Json.ofText?_eq_some_iff]

/-! ### The texts of one record -/

/-- An object with each key once is read as the array of its fields, if all keys have a
meaning. -/
theorem ofText?_object {members : List (RawText × Json)} {values : List Json}
    (fields : List.Forall₂ (fun key v => valuesOf members key = [v]) kind.keys values)
    (spelled : (Json.object members).SpelledBy text)
    (spelled' : (Json.array values).SpelledBy text') :
    kind.ofText? text =
      if ∀ m ∈ members, m.1.decode? ≠ none then kind.ofText? text' else none := by
  split_ifs with decodes
  · refine ofText?_congr ?_ spelled spelled'
    rw [Json.fields?_object_eq_some_iff.2 ⟨decodes, fields⟩, Json.fields?_array,
      if_pos fields.length_eq.symm]
  · refine ofText?_eq_none (Option.eq_none_iff_forall_ne_some.2 fun found reads => ?_) spelled
    exact decodes (Json.fields?_object_eq_some_iff.1 reads).1

/-- An object is no record if a key is missing or stands there twice. -/
theorem ofText?_object_eq_none {members : List (RawText × Json)} {key : String}
    (known : key ∈ kind.keys) (once : (valuesOf members key).length ≠ 1)
    (spelled : (Json.object members).SpelledBy text) : kind.ofText? text = none := by
  refine ofText?_eq_none (Option.eq_none_iff_forall_ne_some.2 fun found reads => ?_) spelled
  have fields := (Json.fields?_object_eq_some_iff.1 reads).2
  obtain ⟨v, -, found⟩ := Traversal.exists_mem_of_forall₂
    (r := fun v key => valuesOf members key = [v]) fields.flip known
  exact once (by rw [found, List.length_singleton])

/-- Texts of a record. A text is one exactly if it spells a value that is a record. Objects
that differ in the order of their members, in the spelling of a key or in members of other
keys are read alike, wherever they stand and with any white space; so is the array of the
fields in order. An array of another length and an object without a key or with a key twice
are no record. -/
theorem ofText?_rearranged (kind : RecordKind) :
    (∀ (text : List Char) (r : kind.Record), kind.ofText? text = some r ↔
      ∃ v : Json, v.SpelledBy text ∧ kind.ofJson? v = some r) ∧
    (∀ members members' : List (RawText × Json), Rearranged kind.keys members members' →
      kind.ofJson? (.object members) = kind.ofJson? (.object members') ∧
        ∀ text text' : List Char, (Json.object members).SpelledBy text →
          (Json.object members').SpelledBy text' → kind.ofText? text = kind.ofText? text') ∧
    (∀ (members : List (RawText × Json)) (values : List Json) (text text' : List Char),
      List.Forall₂ (fun key v => valuesOf members key = [v]) kind.keys values →
        (Json.object members).SpelledBy text → (Json.array values).SpelledBy text' →
          kind.ofText? text =
            if ∀ m ∈ members, m.1.decode? ≠ none then kind.ofText? text' else none) ∧
    (∀ (values : List Json) (text : List Char), values.length ≠ kind.keys.length →
      (Json.array values).SpelledBy text → kind.ofText? text = none) ∧
    ∀ (members : List (RawText × Json)) (key : String) (text : List Char), key ∈ kind.keys →
      (valuesOf members key).length ≠ 1 → (Json.object members).SpelledBy text →
        kind.ofText? text = none := by
  refine ⟨fun text r => ofText?_eq_some_iff,
    fun members members' rearranged => ⟨?_, fun text text' spelled spelled' => ?_⟩,
    fun members values text text' => ofText?_object,
    fun values text length spelled => ?_,
    fun members key text => ofText?_object_eq_none⟩
  · exact ofJson?_congr rearranged.fields?_eq
  · exact ofText?_congr rearranged.fields?_eq spelled spelled'
  · exact ofText?_eq_none (by rw [Json.fields?_array, if_neg length]) spelled

/-! ### An image in different texts -/

def plainKey (name : String) : RawText := name.toList.map .character

def sampleMembers : List (RawText × Json) :=
  [(plainKey "file_name", .text (plainKey "a")), (plainKey "id", .number { mantissa := 7 })]

/-- The same members the other way round, one key with an escape, and a member whose value has
no meaning. -/
def rearrangedMembers : List (RawText × Json) :=
  [(plainKey "note", .array [.text [.codeUnit 0xD800],
      .number { integral := false, mantissa := 1, exponent := 999 }]),
    (plainKey "id", .number { mantissa := 7 }),
    (plainKey "file" ++ .codeUnit 0x5F :: plainKey "name", .text (plainKey "a"))]

def sampleText : List Char := "\x7b\"file_name\":\"a\",\"id\":7\x7d".toList

/-- The same image with an unknown member, other white space and a key that is spelled
otherwise, in another order. -/
def rearrangedText : List Char :=
  "\x7b \"note\":[\"\\ud800\",1e999],\n\t\"id\" : 7,\"file\\u005Fname\":\"a\"\x7d\n".toList

def fieldsText : List Char := "[\"a\", 7]".toList

/-- This is no image, as it has two ids. -/
def doubledText : List Char := "\x7b\"id\":7,\"file_name\":\"a\",\"id\":7\x7d".toList

theorem rearranged_sampleMembers : Rearranged image.keys sampleMembers rearrangedMembers := by
  have swapped : Rearranged image.keys sampleMembers sampleMembers.reverse :=
    .perm (List.reverse_perm _).symm
  have unknown : String.ofList "note".toList ∉ image.keys := by decide
  refine swapped.trans (.trans (.respell [_] [] _ ?_) (.insert [] _ _ ?_ unknown)) <;> rfl

theorem ofText?_rearranged_sampleMembers :
    image.ofText? sampleText = some ⟨"a", 7⟩ ∧
      image.ofText? sampleText = image.ofText? rearrangedText ∧
      image.ofText? sampleText = image.ofText? fieldsText ∧
      image.ofText? doubledText = none ∧
      image.ofText? ['[', ']'] = none := by
  have sample : (Json.object sampleMembers).SpelledBy sampleText :=
    Json.ofText?_eq_some_iff.1 rfl
  obtain ⟨spelled, rearranged, fields, short, missing⟩ := ofText?_rearranged image
  refine ⟨?_, ?_, ?_, ?_, ?_⟩
  · exact (spelled _ _).2 ⟨_, sample, rfl⟩
  · exact (rearranged _ _ rearranged_sampleMembers).2 _ _ sample (Json.ofText?_eq_some_iff.1 rfl)
  · have once : List.Forall₂ (fun key v => valuesOf sampleMembers key = [v]) image.keys
        [.text (plainKey "a"), .number { mantissa := 7 }] :=
      .cons rfl (.cons rfl .nil)
    exact fields _ _ _ _ once sample (Json.ofText?_eq_some_iff.1 rfl)
  · exact missing
      [(plainKey "id", .number { mantissa := 7 }), (plainKey "file_name", .text (plainKey "a")),
        (plainKey "id", .number { mantissa := 7 })]
      "id" _ (by decide) (by decide) (Json.ofText?_eq_some_iff.1 rfl)
  · exact short [] _ (by decide) (Json.ofText?_eq_some_iff.1 rfl)

end RecordKind

end DetectionMerge
