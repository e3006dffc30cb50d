import DetectionMerge.Record.Image
import Mathlib.Tactic

/-! The index of image ids as a function of the entries that it is made from. Of the
entries of a name only the last one counts, in what is found, in the number of names and
in which indexes are equal, so entries may be reordered and dropped as long as each name
keeps its last one. -/

namespace DetectionMerge.ImageIndex

variable {index a b : ImageIndex} {name other : String} {id : Int64} {e p q : String × Int64}
  {entries before after : List (String × Int64)}

/-! ### One more entry -/

theorem get?_insert (index : ImageIndex) (name other : String) (id : Int64) :
    (index.insert name id).get? other = if name = other then some id else index.get? other := by
  unfold get? insert
  rw [List.find?_cons]
  split_ifs with same
  · simp [same]
  · have others : (index.entries.filter (·.1 ≠ name)).find? (·.1 = other) =
        index.entries.find? (·.1 = other) := by
      rw [List.find?_filter]
      congr 1
      funext e
      by_cases found : e.1 = other
      · simp [found, Ne.symm same]
      · simp [found]
    rw [others, decide_eq_false same]

theorem mem_entries_of_get? (found : index.get? name = some id) : (name, id) ∈ index.entries := by
  obtain ⟨e, first, rfl⟩ := Option.map_eq_some_iff.1 found
  have named : e.1 = name := by simpa using List.find?_some first
  rw [← named]
  exact List.mem_of_find?_eq_some first

/-- As each name occurs once, every entry is found. -/
theorem get?_of_mem_entries (member : (name, id) ∈ index.entries) :
    index.get? name = some id := by
  obtain ⟨entries, distinct⟩ := index
  induction entries with
  | nil => cases member
  | cons e entries ih =>
    obtain ⟨new, distinct⟩ := List.nodup_cons.1 distinct
    rw [get?, List.find?_cons]
    rcases List.mem_cons.1 member with rfl | member
    · simp
    · have different : e.1 ≠ name := by
        rintro rfl
        exact new (List.mem_map.2 ⟨_, member, rfl⟩)
      rw [decide_eq_false different]
      exact ih distinct member

theorem get?_eq_none_iff : index.get? name = none ↔ ∀ e ∈ index.entries, e.1 ≠ name := by
  rw [get?, Option.map_eq_none_iff, List.find?_eq_none]
  simp only [decide_eq_true_iff, ne_eq]

/-- Images of different names have different ids. -/
def IsInjective (index : ImageIndex) : Prop :=
  ∀ name name' id, index.get? name = some id → index.get? name' = some id → name = name'

theorem isInjective_of_nodup (once : (index.entries.map (·.2)).Nodup) : index.IsInjective := by
  intro name name' id found found'
  have same := List.inj_on_of_nodup_map once (mem_entries_of_get? found)
    (mem_entries_of_get? found') rfl
  exact congrArg Prod.fst same

/-- Two indexes are equal exactly if they give every name the same id. -/
theorem same_iff : a.same b ↔ ∀ name, a.get? name = b.get? name := by
  unfold same
  rw [Bool.and_eq_true, List.all_eq_true, List.all_eq_true]
  simp only [decide_eq_true_iff]
  constructor
  · rintro ⟨left, right⟩ name
    refine Option.ext fun id => ⟨fun found => ?_, fun found => ?_⟩
    · exact left _ (mem_entries_of_get? found)
    · exact right _ (mem_entries_of_get? found)
  · intro agree
    refine ⟨fun e member => ?_, fun e member => ?_⟩
    · rw [← agree]
      exact get?_of_mem_entries member
    · rw [agree]
      exact get?_of_mem_entries member

/-! ### A list of entries -/

theorem ofList_concat (entries : List (String × Int64)) (e : String × Int64) :
    ofList (entries ++ [e]) = (ofList entries).insert e.1 e.2 := by
  simp [ofList]

/-- What comes later hides what comes before. -/
theorem get?_ofList_append (before after : List (String × Int64)) (name : String) :
    (ofList (before ++ after)).get? name =
      ((ofList after).get? name).or ((ofList before).get? name) := by
  induction after using List.reverseRecOn with
  | nil =>
    rw [List.append_nil]
    rfl
  | append_singleton after e ih =>
    rw [← List.append_assoc, ofList_concat, ofList_concat, get?_insert, get?_insert, ih]
    split_ifs <;> rfl

theorem get?_ofList_cons (e : String × Int64) (entries : List (String × Int64)) (name : String) :
    (ofList (e :: entries)).get? name =
      ((ofList entries).get? name).or (if e.1 = name then some e.2 else none) := by
  rw [← List.singleton_append, get?_ofList_append, ← List.nil_append [e], ofList_concat, get?_insert]
  rfl

theorem get?_ofList_eq_none_iff :
    (ofList entries).get? name = none ↔ ∀ e ∈ entries, e.1 ≠ name := by
  induction entries with
  | nil => exact iff_of_true rfl (List.forall_mem_nil _)
  | cons e entries ih =>
    rw [get?_ofList_cons, Option.or_eq_none_iff, ih, List.forall_mem_cons, and_comm]
    simp

/-- The id of the last entry of a name. -/
def IsLast (entries : List (String × Int64)) (name : String) (id : Int64) : Prop :=
  ∃ before after, entries = before ++ (name, id) :: after ∧ ∀ e ∈ after, e.1 ≠ name

theorem get?_ofList_of_isLast (last : IsLast entries name id) :
    (ofList entries).get? name = some id := by
  obtain ⟨before, after, rfl, others⟩ := last
  rw [get?_ofList_append, get?_ofList_cons, get?_ofList_eq_none_iff.2 others]
  simp

theorem exists_isLast (some : ∃ e ∈ entries, e.1 = name) : ∃ id, IsLast entries name id := by
  induction entries with
  | nil => simp at some
  | cons e entries ih =>
    by_cases later : ∃ e ∈ entries, e.1 = name
    · obtain ⟨id, before, after, rfl, others⟩ := ih later
      exact ⟨id, e :: before, after, rfl, others⟩
    · obtain ⟨e', member, rfl⟩ := some
      obtain rfl | member := List.mem_cons.1 member
      · exact ⟨e'.2, [], entries, rfl, fun x hx same => later ⟨x, hx, same⟩⟩
      · exact absurd ⟨e', member, rfl⟩ later

theorem get?_ofList_eq_some_iff :
    (ofList entries).get? name = some id ↔ IsLast entries name id := by
  refine ⟨fun found => ?_, get?_ofList_of_isLast⟩
  have some : ∃ e ∈ entries, e.1 = name := by
    by_contra none
    rw [get?_ofList_eq_none_iff.2 fun e member same => none ⟨e, member, same⟩] at found
    cases found
  obtain ⟨id', last⟩ := exists_isLast some
  obtain rfl : id' = id := Option.some.inj ((get?_ofList_of_isLast last).symm.trans found)
  exact last

theorem mem_names_ofList_iff :
    name ∈ (ofList entries).entries.map (·.1) ↔ name ∈ entries.map (·.1) := by
  have names (entries : List (String × Int64)) :
      name ∉ entries.map (·.1) ↔ ∀ e ∈ entries, e.1 ≠ name := by
    simp only [List.mem_map, not_exists, not_and, ne_eq]
  rw [← not_iff_not, names, names, ← get?_eq_none_iff, get?_ofList_eq_none_iff]

theorem size_ofList (entries : List (String × Int64)) :
    (ofList entries).size = (entries.map (·.1)).toFinset.card := by
  have names : ((ofList entries).entries.map (·.1)).toFinset = (entries.map (·.1)).toFinset := by
    ext name
    rw [List.mem_toFinset, List.mem_toFinset, mem_names_ofList_iff]
  rw [size, ← names, List.toFinset_card_of_nodup (ofList entries).distinct, List.length_map]

theorem isEmpty_ofList_iff : (ofList entries).isEmpty ↔ entries = [] := by
  rw [isEmpty, List.isEmpty_iff, ← List.length_eq_zero_iff, ← size, size_ofList,
    Finset.card_eq_zero, List.toFinset_eq_empty_iff, List.map_eq_nil_iff]

/-! ### Equal indexes -/

/-- Neighbours of different names may change places. -/
theorem get?_ofList_swap (different : p.1 ≠ q.1) (before after : List (String × Int64))
    (name : String) :
    (ofList (before ++ p :: q :: after)).get? name =
      (ofList (before ++ q :: p :: after)).get? name := by
  simp only [get?_ofList_append before, get?_ofList_cons, Option.or_assoc]
  by_cases first : p.1 = name
  · have second : q.1 ≠ name := fun same => different (first.trans same.symm)
    rw [if_pos first, if_neg second, Option.none_or, Option.none_or]
  · rw [if_neg first, Option.none_or, Option.none_or]

/-- An entry may go if another of its name follows. -/
theorem get?_ofList_erase (later : p.1 ∈ after.map (·.1)) (before : List (String × Int64))
    (name : String) :
    (ofList (before ++ p :: after)).get? name = (ofList (before ++ after)).get? name := by
  rw [get?_ofList_append, get?_ofList_append, get?_ofList_cons]
  split_ifs with same
  · obtain ⟨id, found⟩ : ∃ id, (ofList after).get? name = some id := by
      rw [← Option.ne_none_iff_exists', ne_eq, get?_ofList_eq_none_iff]
      obtain ⟨e, member, named⟩ := List.mem_map.1 later
      exact fun others => others e member (named.trans same)
    rw [found]
    rfl
  · rw [Option.or_none]

/-- An index that is made from a list of entries, or from images with these names and ids. -/
inductive MadeFrom : List (String × Int64) → ImageIndex → Prop
  | entries (entries : List (String × Int64)) : MadeFrom entries (ofList entries)
  | images (images : List ImageRecord) :
    MadeFrom (images.map fun image => (image.fileName, image.id)) (ofRecords images)

theorem MadeFrom.eq (made : MadeFrom entries index) : index = ofList entries := by
  cases made <;> rfl

/-- An index depends on the last entry of each name and on nothing else. It finds the id of
the last entry, it has as many names as the entries, and it is empty only if there are
none. Two indexes are equal if they find the same, so neither the order of different names
nor an entry that is followed by another of its name matters. -/
theorem lastEntries_of_madeFrom (made : MadeFrom entries index) :
    (∀ name id, index.get? name = some id ↔ IsLast entries name id) ∧
      (∀ name, index.get? name = none ↔ ∀ e ∈ entries, e.1 ≠ name) ∧
      index.size = (entries.map (·.1)).toFinset.card ∧ (index.isEmpty ↔ entries = []) ∧
      (∀ entries' index', MadeFrom entries' index' →
        (index.same index' ↔ ∀ name, index.get? name = index'.get? name)) ∧
      (∀ before p q after index', entries = before ++ p :: q :: after → p.1 ≠ q.1 →
        MadeFrom (before ++ q :: p :: after) index' → index.same index') ∧
      (∀ before p after index', entries = before ++ p :: after → p.1 ∈ after.map (·.1) →
        MadeFrom (before ++ after) index' → index.same index') := by
  obtain rfl := made.eq
  refine ⟨fun _ _ => get?_ofList_eq_some_iff, fun _ => get?_ofList_eq_none_iff, size_ofList entries,
    isEmpty_ofList_iff, fun _ _ _ => same_iff, ?_, ?_⟩
  · rintro before p q after index' rfl different made'
    rw [made'.eq, same_iff]
    exact get?_ofList_swap different before after
  · rintro before p after index' rfl later made'
    rw [made'.eq, same_iff]
    exact get?_ofList_erase later before

def sampleImages : List ImageRecord := [⟨"a.jpg", 1⟩, ⟨"b.jpg", 2⟩, ⟨"a.jpg", 3⟩]

theorem lastEntries_of_sampleImages :
    MadeFrom [("a.jpg", 1), ("b.jpg", 2), ("a.jpg", 3)] (ofRecords sampleImages) ∧
      (ofRecords sampleImages).get? "a.jpg" = some 3 ∧ (ofRecords sampleImages).size = 2 ∧
      (ofRecords sampleImages).same (ofList [("b.jpg", 2), ("a.jpg", 3)]) := by
  have made : MadeFrom [("a.jpg", 1), ("b.jpg", 2), ("a.jpg", 3)] (ofRecords sampleImages) :=
    .images sampleImages
  obtain ⟨found, -, size, -, -, -, erased⟩ := lastEntries_of_madeFrom made
  have last : IsLast [("a.jpg", 1), ("b.jpg", 2), ("a.jpg", 3)] "a.jpg" 3 :=
    ⟨[("a.jpg", 1), ("b.jpg", 2)], [], rfl, List.forall_mem_nil _⟩
  refine ⟨made, (found "a.jpg" 3).2 last, size.trans (by decide), ?_⟩
  exact erased [] ("a.jpg", 1) [("b.jpg", 2), ("a.jpg", 3)] _ rfl (by decide) (.entries _)

end DetectionMerge.ImageIndex
