import DetectionMerge.Proofs.CommandLine.Items

/-! Which command lines are accepted, and for which options, and what is wrong with the
others. A command line that asks neither for help nor for the version is refused exactly
if it has a defect: a word that is no item, an item too many, or one too few. -/

namespace DetectionMerge.CommandLine

/-! ### Acceptance -/

theorem item_mem_map {i : Item} {items : List Item} : .item i ∈ items.map Word.item ↔ i ∈ items :=
  List.mem_map_of_injective fun _ _ => Word.item.inj

theorem exists_map_item {words : List Word} (all : ∀ word ∈ words, ∃ i, .item i = word) :
    ∃ items : List Item, words = items.map .item := by
  have range : words ∈ Set.range (List.map Word.item) := by
    rw [Set.range_list_map]
    exact all
  obtain ⟨items, rfl⟩ := range
  exact ⟨items, rfl⟩

theorem perm_map_item_iff {words : List Word} {items : List Item} :
    words.Perm (items.map .item) ↔
      ∃ items' : List Item, words = items'.map .item ∧ items'.Perm items := by
  constructor
  · intro perm
    obtain ⟨items', rfl⟩ := exists_map_item fun word found => by
      obtain ⟨i, -, same⟩ := List.mem_map.1 (perm.mem_iff.1 found)
      exact ⟨i, same⟩
    exact ⟨items', rfl, (List.map_perm_map_iff fun _ _ => Word.item.inj).1 perm⟩
  · rintro ⟨items', rfl, perm⟩
    exact perm.map _

/-- All arguments are read if they give items, and these are proper. -/
theorem Expresses.read_eq_ok_iff {arguments : List SystemText} {words : List Word}
    (expresses : Expresses arguments words) {g : Given} : CommandLine.read {} arguments = .ok g ↔
      ∃ items : List Item, words = items.map .item ∧ Proper items ∧
        items.foldl Given.add {} = g := by
  have start : Proper (Given.items {}) := .nil
  rw [expresses.read, Given.foldlM_take_eq_ok_iff start]
  simp only [Given.items_empty, List.append_nil]

/-- What a command line says to give options, in one of the orders. -/
def Options.words (options : Options) : List Word := options.given.items.map .item

/-- A command line is accepted for options if it says what gives them, in any order. -/
theorem Expresses.parse_eq_run_iff_perm {arguments : List SystemText} {words : List Word}
    (expresses : Expresses arguments words) {options : Options} :
    parse arguments = .run options ↔ options.IsConsistent ∧ words.Perm options.words := by
  rw [Options.words, perm_map_item_iff]
  constructor
  · intro accepted
    obtain ⟨g, reads, complete⟩ := parse_eq_run_iff.1 accepted
    obtain ⟨items, rfl, proper, rfl⟩ := expresses.read_eq_ok_iff.1 reads
    have perm := Given.items_foldl_add_empty items
    obtain ⟨consistent, same⟩ :=
      (Given.options?_eq_some_iff_perm (proper.perm perm.symm)).1 complete
    exact ⟨consistent, items, rfl, perm.symm.trans same⟩
  · rintro ⟨consistent, items, rfl, same⟩
    have proper : Proper items := consistent.proper.perm same.symm
    have perm := Given.items_foldl_add_empty items
    have reads := expresses.read_eq_ok_iff.2 ⟨items, rfl, proper, rfl⟩
    have complete := (Given.options?_eq_some_iff_perm (proper.perm perm.symm)).2
      ⟨consistent, perm.trans same⟩
    exact parse_eq_run_iff.2 ⟨_, reads, complete⟩

/-! ### Defects -/

/-- What can be wrong with a command line. -/
inductive Defective (words : List Word) : Prop
  | unknown (found : .unknown ∈ words)
  | stray (found : .stray ∈ words)
  | dashed {o : ValueOption} (found : .dashed o ∈ words)
  | missing {o : ValueOption} (found : .missing o ∈ words)
  | unwanted (found : .unwanted ∈ words)
  | emptyPath {i : Item} (empty : i ∈ emptyPaths) (found : .item i ∈ words)
  | textless {o : ValueOption} {value : SystemText} (needed : o = .suffix ∨ o = .program)
    (none : value.text? = none) (found : .item (.value o value) ∈ words)
  | repetition {i j : Item} (repeats : i.Repeats j)
    (both : [Word.item i, .item j].Sublist words)
  | conflict (quiet : .item (.switch .quiet) ∈ words) (verbose : .item .verbose ∈ words)
  | lack {o : ValueOption} (required : o = .annotations ∨ o = .folder)
    (absent : ∀ text, .item (.value o text) ∉ words)

/-- Words without a defect are items. -/
theorem exists_items_of_not_defective {words : List Word} (sound : ¬Defective words)
    (help : .help ∉ words) (version : .version ∉ words) :
    ∃ items : List Item, words = items.map .item ∧ Proper items := by
  obtain ⟨items, rfl⟩ := exists_map_item fun word found => by
    show ∃ i, .item i = word
    cases word with
    | item i => exact ⟨i, rfl⟩
    | help => exact absurd found help
    | version => exact absurd found version
    | unknown => exact absurd (.unknown found) sound
    | stray => exact absurd (.stray found) sound
    | dashed => exact absurd (.dashed found) sound
    | missing => exact absurd (.missing found) sound
    | unwanted => exact absurd (.unwanted found) sound
  refine ⟨items, rfl, List.pairwise_iff_forall_sublist.2 ?_, ?_⟩
  · exact fun both repeats => sound (.repetition repeats (both.map Word.item))
  · intro i given
    by_contra unfit
    obtain empty | ⟨o, value, rfl, needed, none⟩ := Item.not_fits_iff.1 unfit
    · exact sound (.emptyPath empty (List.mem_map_of_mem given))
    · exact sound (.textless needed none (List.mem_map_of_mem given))

theorem Expresses.exists_parse_eq_run {arguments : List SystemText} {words : List Word}
    (expresses : Expresses arguments words) (sound : ¬Defective words)
    (help : .help ∉ words) (version : .version ∉ words) :
    ∃ options, parse arguments = .run options := by
  obtain ⟨items, rfl, proper⟩ := exists_items_of_not_defective sound help version
  have reads := expresses.read_eq_ok_iff.2 ⟨items, rfl, proper, rfl⟩
  have given (i : Item) : i ∈ (items.foldl Given.add {}).items ↔ .item i ∈ items.map Word.item := by
    rw [(Given.items_foldl_add_empty items).mem_iff, item_mem_map]
  have value {o : ValueOption} (required : o = .annotations ∨ o = .folder) :
      ((items.foldl Given.add {}).value? o).isSome := by
    rw [Given.isSome_value?_iff]
    by_contra absent
    exact sound (.lack required fun text found => absent ⟨text, (given _).2 found⟩)
  have text {o : ValueOption} (needed : o = .suffix ∨ o = .program) :
      ∃ text : Option String,
        (items.foldl Given.add {}).value? o = text.map SystemText.ofString := by
    cases found : (items.foldl Given.add {}).value? o with
    | none => exact ⟨none, rfl⟩
    | some value =>
      have perm := Given.items_foldl_add_empty items
      have item := (Given.value?_eq_some_iff (proper.perm perm.symm)).1 found
      have admits := proper.filled _ (perm.mem_iff.1 item)
      obtain ⟨text, reads⟩ : ∃ text, value.text? = some text := by
        obtain rfl | rfl := needed <;> exact Option.isSome_iff_exists.1 admits
      exact ⟨some text, by rw [SystemText.text?_eq_some_iff.1 reads, Option.map_some]⟩
  have single : ¬(.quiet ∈ (items.foldl Given.add {}).switches ∧
      0 < (items.foldl Given.add {}).verbosity) := by
    rw [← Given.switch_mem_items, ← Given.count_verbose_items, List.count_pos_iff, given, given]
    exact fun ⟨quiet, verbose⟩ => sound (.conflict quiet verbose)
  obtain ⟨options, complete⟩ := Given.exists_options?_eq_some (value (.inl rfl)) (value (.inr rfl))
    (text (.inl rfl)) (text (.inr rfl)) single
  exact ⟨options, parse_eq_run_iff.2 ⟨_, reads, complete⟩⟩

theorem Defective.parse_ne_run {arguments : List SystemText} {words : List Word}
    (defective : Defective words) (expresses : Expresses arguments words) (options : Options) :
    parse arguments ≠ .run options := by
  intro accepted
  obtain ⟨consistent, same⟩ := expresses.parse_eq_run_iff_perm.1 accepted
  obtain ⟨items, rfl, perm⟩ := perm_map_item_iff.1 same
  have proper : Proper items := consistent.proper.perm perm.symm
  cases defective with
  | unknown found | stray found | dashed found | missing found | unwanted found =>
    simp at found
  | emptyPath empty found =>
    exact Item.not_fits_iff.2 (.inl empty) (proper.filled _ (item_mem_map.1 found))
  | textless needed none found =>
    exact Item.not_fits_iff.2 (.inr ⟨_, _, rfl, needed, none⟩)
      (proper.filled _ (item_mem_map.1 found))
  | repetition repeats both =>
    -- The two words are those of two items in the same order.
    obtain ⟨both', part, same⟩ := List.sublist_map_iff.1 both
    obtain ⟨i', rest, rfl, ⟨⟩, later⟩ := List.map_eq_cons_iff.1 same.symm
    obtain ⟨j', rest, rfl, ⟨⟩, last⟩ := List.map_eq_cons_iff.1 later
    obtain rfl := List.map_eq_nil_iff.1 last
    exact List.pairwise_iff_forall_sublist.1 proper.single part repeats
  | conflict quiet verbose =>
    rw [item_mem_map, perm.mem_iff] at quiet verbose
    rw [Given.switch_mem_items, Options.mem_switches_given] at quiet
    rw [← List.count_pos_iff, Given.count_verbose_items] at verbose
    exact Nat.ne_of_gt verbose (consistent.loudness quiet)
  | lack required absent =>
    have given {o : ValueOption} {text : SystemText} (value : options.value? o = some text) :
        .item (.value o text) ∈ items.map Word.item := by
      rwa [item_mem_map, perm.mem_iff, Given.value_mem_items, Options.mem_values_given]
    obtain rfl | rfl := required
    · exact absent _ (given rfl)
    · exact absent _ (given rfl)

/-- A command line that asks neither for help nor for the version is refused exactly if it
has a defect. -/
theorem Expresses.parse_eq_invalid_iff {arguments : List SystemText} {words : List Word}
    (expresses : Expresses arguments words) (help : .help ∉ words) (version : .version ∉ words) :
    parse arguments = .invalid ↔ Defective words := by
  constructor
  · intro refused
    by_contra sound
    obtain ⟨options, accepted⟩ := expresses.exists_parse_eq_run sound help version
    rw [refused] at accepted
    cases accepted
  · intro defective
    cases reads : CommandLine.read {} arguments with
    | error stop =>
      have stopped := (expresses.read {}).symm.trans reads
      rw [Given.foldlM_take_eq_error stopped help version] at reads
      rw [parse, reads]
    | ok g =>
      have lacking : g.options? = none := by
        refine Option.eq_none_iff_forall_ne_some.2 fun options complete => ?_
        exact defective.parse_ne_run expresses options (parse_eq_run_iff.2 ⟨g, reads, complete⟩)
      simp only [parse, reads, lacking, Option.elim_none]

end DetectionMerge.CommandLine
