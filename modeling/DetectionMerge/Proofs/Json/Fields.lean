import DetectionMerge.Json.Fields
import DetectionMerge.Proofs.Traversal

/-! The fields of a record. They are what the members with its keys have as values: one
member for each key, in any place, spelled in any way. The order of the members and those
with other keys do not count. -/

namespace DetectionMerge.Json

variable {keys : List String} {members members' : List (RawText × Json)} {values : List Json}

/-- The values of the members with a key. -/
def valuesOf (members : List (RawText × Json)) (key : String) : List Json :=
  (members.filter fun m => m.1.decode? = some key.toList).map (·.2)

theorem valuesOf_append (members members' : List (RawText × Json)) (key : String) :
    valuesOf (members ++ members') key = valuesOf members key ++ valuesOf members' key := by
  simp [valuesOf]

theorem valuesOf_cons (m : RawText × Json) (members : List (RawText × Json)) (key : String) :
    valuesOf (m :: members) key =
      if m.1.decode? = some key.toList then m.2 :: valuesOf members key
      else valuesOf members key := by
  split_ifs with named <;> simp [valuesOf, named]

theorem member?_eq_some_iff {named : List (String × Json)} {key : String} {v : Json} :
    member? named key = some v ↔ (named.filter (·.1 = key)).map (·.2) = [v] := by
  unfold member?
  cases named.filter (·.1 = key) with
  | nil => simp
  | cons m rest =>
    cases rest with
    | nil => simp
    | cons => simp

/-- A member with its key's meaning. -/
def named? (m : RawText × Json) : Option (String × Json) :=
  m.1.decode?.map fun k => (String.ofList k, m.2)

theorem values_eq_valuesOf {named : List (String × Json)}
    (h : List.Forall₂ (fun m n => named? m = some n) members named) (key : String) :
    (named.filter (·.1 = key)).map (·.2) = valuesOf members key := by
  induction h with
  | nil => rfl
  | @cons m n members named head _ ih =>
    obtain ⟨name, decodes, rfl⟩ := Option.map_eq_some_iff.1 head
    have same : String.ofList name = key ↔ name = key.toList :=
      ⟨fun h => by rw [← h, String.toList_ofList], fun h => by rw [h, String.ofList_toList]⟩
    rw [valuesOf_cons, decodes, List.filter_cons]
    simp only [same, Option.some.injEq, decide_eq_true_eq]
    split_ifs <;> simp [ih]

theorem mapM_named?_eq_none_iff :
    members.mapM named? = none ↔ ∃ m ∈ members, m.1.decode? = none := by
  simp [Traversal.mapM_eq_none_iff, named?]

/-- The fields of an object: every key has a meaning, and each key of the record is that of
one member. -/
theorem fields?_object_eq_some_iff :
    fields? keys (.object members) = some values ↔
      (∀ m ∈ members, m.1.decode? ≠ none) ∧
        List.Forall₂ (fun key v => valuesOf members key = [v]) keys values := by
  have unfolds : fields? keys (.object members) =
      (members.mapM named?).bind fun named => keys.mapM (member? named) := rfl
  rw [unfolds]
  cases decoded : members.mapM named? with
  | none =>
    obtain ⟨m, mem, none⟩ := mapM_named?_eq_none_iff.1 decoded
    constructor
    · intro h
      cases h
    · rintro ⟨decodes, -⟩
      exact absurd none (decodes m mem)
  | some named =>
    have decodes : ∀ m ∈ members, m.1.decode? ≠ none := fun m mem none => by
      rw [mapM_named?_eq_none_iff.2 ⟨m, mem, none⟩] at decoded
      cases decoded
    have found (key : String) (v : Json) : member? named key = some v ↔ valuesOf members key = [v] := by
      rw [member?_eq_some_iff, values_eq_valuesOf (Traversal.mapM_eq_some_iff.1 decoded)]
    rw [Option.bind_some, Traversal.mapM_eq_some_iff]
    simp only [found, and_iff_right decodes]

theorem fields?_array (keys : List String) (values : List Json) :
    fields? keys (.array values) = if values.length = keys.length then some values else none :=
  rfl

/-! ### Objects with the same fields -/

/-- Members that differ in their order, in the spelling of their keys and in members that
are not the record's. -/
inductive Rearranged (keys : List String) :
    List (RawText × Json) → List (RawText × Json) → Prop
  | perm {members members' : List (RawText × Json)} (order : members.Perm members') :
    Rearranged keys members members'
  | respell (before after : List (RawText × Json)) {key key' : RawText} (v : Json)
    (same : key.decode? = key'.decode?) :
    Rearranged keys (before ++ (key, v) :: after) (before ++ (key', v) :: after)
  | insert (before after : List (RawText × Json)) {key : RawText} {name : List Char} (v : Json)
    (decodes : key.decode? = some name) (unknown : String.ofList name ∉ keys) :
    Rearranged keys (before ++ after) (before ++ (key, v) :: after)
  | symm {members members' : List (RawText × Json)} (h : Rearranged keys members members') :
    Rearranged keys members' members
  | trans {members members' members'' : List (RawText × Json)}
    (h : Rearranged keys members members') (h' : Rearranged keys members' members'') :
    Rearranged keys members members''

theorem fields?_of_valuesOf
    (decodes : (∀ m ∈ members, m.1.decode? ≠ none) ↔ ∀ m ∈ members', m.1.decode? ≠ none)
    (values : ∀ key ∈ keys, (valuesOf members key).Perm (valuesOf members' key)) :
    fields? keys (.object members) = fields? keys (.object members') := by
  have same : ∀ key ∈ keys, ∀ v, valuesOf members key = [v] ↔ valuesOf members' key = [v] := by
    intro key mem v
    rw [← List.perm_singleton, ← List.perm_singleton]
    exact ⟨(values key mem).symm.trans, (values key mem).trans⟩
  refine Option.ext fun found => ?_
  rw [fields?_object_eq_some_iff, fields?_object_eq_some_iff, decodes, List.forall₂_iff_zip,
    List.forall₂_iff_zip]
  refine and_congr_right fun _ => and_congr_right fun _ => ?_
  exact ⟨fun h key v mem => (same key (List.of_mem_zip mem).1 v).1 (h mem),
    fun h key v mem => (same key (List.of_mem_zip mem).1 v).2 (h mem)⟩

theorem Rearranged.fields?_eq (h : Rearranged keys members members') :
    fields? keys (.object members) = fields? keys (.object members') := by
  induction h with
  | perm order =>
    refine fields?_of_valuesOf ?_ ?_
    · simp only [order.mem_iff]
    · exact fun key _ => (order.filter _).map _
  | respell before after v same =>
    refine fields?_of_valuesOf ?_ ?_
    · simp [same, or_imp, forall_and]
    · intro key _
      simp [valuesOf_append, valuesOf_cons, same]
  | @insert before after key name v decodes unknown =>
    refine fields?_of_valuesOf ?_ ?_
    · simp [decodes, or_imp, forall_and]
    · intro key' mem
      have other : key.decode? ≠ some key'.toList := by
        intro same
        obtain rfl := Option.some.inj (decodes.symm.trans same)
        rw [String.ofList_toList] at unknown
        exact unknown mem
      simp [valuesOf_append, valuesOf_cons, other]
  | symm _ ih => exact ih.symm
  | trans _ _ ih ih' => exact ih.trans ih'

end DetectionMerge.Json
