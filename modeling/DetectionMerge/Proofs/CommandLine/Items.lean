import DetectionMerge.Proofs.CommandLine.Words
import Mathlib.Data.List.Perm.Basic

/-! What a command line gives as a whole. Words are taken in exactly if they are items
that are proper together: nothing but verbosity is given again, no path is empty, and what
is no path is a text. What has been given then makes up options exactly if it is what these
stand for, in any order. -/

namespace DetectionMerge.CommandLine

open Traversal (bind_eq_ok_iff)

/-! ### Items -/

/-- The same option or the same switch, whatever the value. -/
inductive Item.Repeats : Item → Item → Prop
  | value (o : ValueOption) (text text' : SystemText) : Repeats (.value o text) (.value o text')
  | switch (s : Switch) : Repeats (.switch s) (.switch s)

def emptyPaths : List Item := [.value .annotations "", .value .folder "", .value .output ""]

/-- An option has a value that it can have. -/
def Item.Fits : Item → Prop
  | .value o text => o.admits text
  | .switch _ | .verbose => True

/-- The value is an empty path, or no text where a text is needed. -/
theorem Item.not_fits_iff {i : Item} : ¬i.Fits ↔ i ∈ emptyPaths ∨
    ∃ o text, i = .value o text ∧ (o = .suffix ∨ o = .program) ∧ text.text? = none := by
  cases i with
  | value o text => cases o <;> simp [Fits, ValueOption.admits, emptyPaths]
  | switch | verbose => simp [Fits, emptyPaths]

/-- No option or switch is given again, and all values fit. -/
structure Proper (items : List Item) : Prop where
  single : items.Pairwise fun i j => ¬i.Repeats j
  filled : ∀ i ∈ items, i.Fits

theorem Item.Repeats.symm {i j : Item} (repeats : i.Repeats j) : j.Repeats i := by
  cases repeats with
  | value o text text' => exact .value o text' text
  | switch s => exact .switch s

@[simp] theorem Item.value_repeats_value {o o' : ValueOption} {text text' : SystemText} :
    (Item.value o text).Repeats (.value o' text') ↔ o = o' := by
  constructor
  · rintro ⟨⟩
    rfl
  · rintro rfl
    exact .value o text text'

theorem Item.repeats_self {i : Item} (other : i ≠ .verbose) : i.Repeats i := by
  cases i with
  | value o text => exact .value o text text
  | switch s => exact .switch s
  | verbose => exact absurd rfl other

theorem Proper.nil : Proper [] := ⟨.nil, fun _ member => nomatch member⟩

theorem proper_cons_iff {i : Item} {items : List Item} :
    Proper (i :: items) ↔ (∀ j ∈ items, ¬i.Repeats j) ∧ i.Fits ∧ Proper items := by
  constructor
  · rintro ⟨single, filled⟩
    obtain ⟨first, single⟩ := List.pairwise_cons.1 single
    obtain ⟨full, filled⟩ := List.forall_mem_cons.1 filled
    exact ⟨first, full, single, filled⟩
  · rintro ⟨first, full, single, filled⟩
    exact ⟨List.pairwise_cons.2 ⟨first, single⟩, List.forall_mem_cons.2 ⟨full, filled⟩⟩

theorem Proper.sublist {items items' : List Item} (proper : Proper items')
    (part : items.Sublist items') : Proper items :=
  ⟨proper.single.sublist part, fun i member => proper.filled i (part.subset member)⟩

theorem Proper.perm {items items' : List Item} (proper : Proper items)
    (perm : items.Perm items') : Proper items' :=
  ⟨(perm.pairwise_iff fun apart repeats => apart repeats.symm).1 proper.single,
    fun i member => proper.filled i (perm.mem_iff.2 member)⟩

theorem Proper.count_le_one {items : List Item} (proper : Proper items) {i : Item}
    (other : i ≠ .verbose) : items.count i ≤ 1 := by
  by_contra twice
  have both : [i, i].Sublist items := List.replicate_sublist_iff.2 (not_le.1 twice)
  exact List.pairwise_iff_forall_sublist.1 proper.single both (Item.repeats_self other)

theorem Proper.eq_of_repeats {items : List Item} (proper : Proper items) {i j : Item}
    (given : i ∈ items) (given' : j ∈ items) (repeats : i.Repeats j) : i = j := by
  have : Std.Symm fun i j : Item => ¬i.Repeats j := ⟨fun _ _ apart repeats => apart repeats.symm⟩
  by_contra other
  exact proper.single.forall given given' other repeats

/-- Apart from verbosity, it only matters what is given. -/
theorem Proper.perm_iff {items items' : List Item} (proper : Proper items)
    (proper' : Proper items') : items.Perm items' ↔
      (∀ i, i ≠ .verbose → (i ∈ items ↔ i ∈ items')) ∧
        items.count .verbose = items'.count .verbose := by
  refine ⟨fun perm => ⟨fun _ _ => perm.mem_iff, perm.count_eq _⟩, fun ⟨same, verbosity⟩ => ?_⟩
  rw [List.perm_iff_count]
  intro i
  by_cases verbose : i = .verbose
  · rw [verbose, verbosity]
  · have least := proper.count_le_one verbose
    have least' := proper'.count_le_one verbose
    -- Both counts are zero or one, so it suffices that they are positive together.
    have positive : 0 < items.count i ↔ 0 < items'.count i := by
      rw [List.count_pos_iff, List.count_pos_iff, same i verbose]
    omega

/-! ### Taking in items -/

namespace Given

/-- What is given with one item more. -/
def add (g : Given) : Item → Given
  | .value o text => { g with values := g.values ++ [(o, text)] }
  | .switch s => { g with switches := g.switches ++ [s] }
  | .verbose => { g with verbosity := g.verbosity + 1 }

def items (g : Given) : List Item :=
  g.values.map (fun entry => .value entry.1 entry.2) ++
    (g.switches.map .switch ++ List.replicate g.verbosity .verbose)

variable {g h : Given}

@[simp] theorem value_mem_items {o : ValueOption} {text : SystemText} :
    .value o text ∈ g.items ↔ (o, text) ∈ g.values := by
  simp [items]

@[simp] theorem switch_mem_items {s : Switch} : .switch s ∈ g.items ↔ s ∈ g.switches := by
  simp [items]

@[simp] theorem count_verbose_items : g.items.count .verbose = g.verbosity := by
  rw [items, List.count_append, List.count_append, List.count_replicate_self,
    List.count_eq_zero_of_not_mem (by simp), List.count_eq_zero_of_not_mem (by simp),
    Nat.zero_add, Nat.zero_add]

theorem proper_items (values : g.values.Pairwise fun entry entry' => entry.1 ≠ entry'.1)
    (switches : g.switches.Nodup)
    (filled : ∀ o text, (o, text) ∈ g.values → o.admits text) : Proper g.items where
  single := by
    rw [items, List.pairwise_append, List.pairwise_append, List.pairwise_map, List.pairwise_map,
      List.pairwise_replicate]
    refine ⟨values.imp fun other => mt Item.value_repeats_value.1 other,
      ⟨switches.imp ?_, .inr nofun, ?_⟩, ?_⟩
    · rintro _ _ other ⟨⟩
      exact other rfl
    · intro i _ j verbose
      rw [List.eq_of_mem_replicate verbose]
      exact nofun
    · intro i value j rest
      obtain ⟨_, -, rfl⟩ := List.mem_map.1 value
      rintro ⟨⟩
      simp at rest
  filled i member := by
    cases i with
    | value o text => exact filled o text (value_mem_items.1 member)
    | switch | verbose => trivial

theorem items_add (g : Given) (i : Item) : (g.add i).items.Perm (i :: g.items) := by
  cases i with
  | value o text =>
    simp only [add, items, List.map_append, List.map_cons, List.map_nil, List.append_assoc,
      List.cons_append, List.nil_append]
    exact List.perm_middle
  | switch s =>
    simp only [add, items, List.map_append, List.map_cons, List.map_nil, List.append_assoc,
      List.cons_append, List.nil_append]
    exact (List.perm_middle.append_left _).trans List.perm_middle
  | verbose =>
    simp only [add, items, List.replicate_succ]
    exact (List.perm_middle.append_left _).trans List.perm_middle

theorem items_foldl_add (items : List Item) (g : Given) :
    (items.foldl add g).items.Perm (items ++ g.items) := by
  induction items generalizing g with
  | nil => exact .refl _
  | cons i items ih => exact (ih (g.add i)).trans (((items_add g i).append_left items).trans List.perm_middle)

theorem items_empty : items {} = [] := rfl

theorem items_foldl_add_empty (items : List Item) : (items.foldl add {}).items.Perm items := by
  simpa only [items_empty, List.append_nil] using items_foldl_add items {}

theorem isSome_value?_iff {o : ValueOption} :
    (g.value? o).isSome ↔ ∃ text, .value o text ∈ g.items := by
  simp [value?, List.find?_isSome]

theorem value?_eq_some_iff (proper : Proper g.items) {o : ValueOption} {text : SystemText} :
    g.value? o = some text ↔ .value o text ∈ g.items := by
  have member {text' : SystemText} (value : g.value? o = some text') :
      .value o text' ∈ g.items := by
    obtain ⟨⟨o', _⟩, found, rfl⟩ := Option.map_eq_some_iff.1 value
    have same := List.find?_some found
    rw [decide_eq_true_eq] at same
    subst same
    exact value_mem_items.2 (List.mem_of_find?_eq_some found)
  refine ⟨member, fun given => ?_⟩
  obtain ⟨text', value⟩ := Option.isSome_iff_exists.1 (isSome_value?_iff.2 ⟨text, given⟩)
  have same := proper.eq_of_repeats given (member value) (.value o text text')
  rw [value, (Item.value.inj same).2]

theorem take_item_eq_ok_iff {i : Item} : g.take (.item i) = .ok h ↔
    (∀ j ∈ g.items, ¬i.Repeats j) ∧ i.Fits ∧ g.add i = h := by
  cases i with
  | value o text =>
    have new : (∀ j ∈ g.items, ¬(Item.value o text).Repeats j) ↔ ¬(g.value? o).isSome := by
      rw [isSome_value?_iff]
      constructor
      · rintro apart ⟨text', given⟩
        exact apart _ given (.value o text text')
      · rintro absent _ given ⟨⟩
        exact absent ⟨_, given⟩
    have full : (Item.value o text).Fits ↔ ¬(!o.admits text) = true := by
      simp [Item.Fits]
    rw [take, setValue, new, full, ← and_assoc, ← not_or]
    split_ifs with refused
    · exact iff_of_false (by simp) fun accepted => accepted.1 refused
    · rw [Except.ok.injEq, and_iff_right refused, add]
  | switch s =>
    have new : (∀ j ∈ g.items, ¬(Item.switch s).Repeats j) ↔ s ∉ g.switches := by
      rw [← switch_mem_items]
      constructor
      · exact fun apart given => apart _ given (.switch s)
      · rintro absent _ given ⟨⟩
        exact absent given
    have full : (Item.switch s).Fits := trivial
    rw [take, set, new, and_iff_right full]
    split_ifs with repeated
    · exact iff_of_false (by simp) fun accepted => accepted.1 repeated
    · rw [Except.ok.injEq, and_iff_right repeated, add]
  | verbose =>
    have new : ∀ j ∈ g.items, ¬Item.verbose.Repeats j := by
      rintro _ _ ⟨⟩
    have full : Item.verbose.Fits := trivial
    rw [and_iff_right new, and_iff_right full, take, set, Except.ok.injEq, add]

/-- A word is taken in if it is an item that is proper besides those given before. -/
theorem take_eq_ok_iff (proper : Proper g.items) {word : Word} :
    g.take word = .ok h ↔ ∃ i, word = .item i ∧ Proper (i :: g.items) ∧ g.add i = h := by
  cases word with
  | item i => simp [take_item_eq_ok_iff, proper_cons_iff, proper, and_assoc]
  | help | version | unknown | stray | dashed | missing | unwanted =>
    exact iff_of_false nofun fun ⟨_, same, _⟩ => nomatch same

/-- Words are taken in if they are items that are proper besides those given before. -/
theorem foldlM_take_eq_ok_iff {words : List Word} (proper : Proper g.items) :
    words.foldlM take g = .ok h ↔
      ∃ items, words = items.map .item ∧ Proper (items ++ g.items) ∧ items.foldl add g = h := by
  induction words generalizing g with
  | nil =>
    constructor
    · rintro ⟨⟩
      exact ⟨[], rfl, proper, rfl⟩
    · rintro ⟨items, none, -, rfl⟩
      rw [List.map_eq_nil_iff.1 none.symm]
      rfl
  | cons word words ih =>
    -- What is given later stands in front of what was given before; the order is forgotten.
    have shift (i : Item) (items : List Item) :
        (items ++ (g.add i).items).Perm (i :: items ++ g.items) :=
      ((items_add g i).append_left items).trans List.perm_middle
    rw [List.foldlM_cons, bind_eq_ok_iff]
    constructor
    · rintro ⟨between, first, later⟩
      obtain ⟨i, rfl, more, rfl⟩ := (take_eq_ok_iff proper).1 first
      obtain ⟨items, rfl, all, rfl⟩ := (ih (more.perm (items_add g i).symm)).1 later
      exact ⟨i :: items, rfl, all.perm (shift i items), rfl⟩
    · rintro ⟨items, split, all, rfl⟩
      obtain ⟨i, items, rfl, rfl, rfl⟩ := List.map_eq_cons_iff.1 split.symm
      have more : Proper (i :: g.items) := all.sublist ((List.sublist_append_right _ _).cons_cons i)
      exact ⟨g.add i, (take_eq_ok_iff proper).2 ⟨i, rfl, more, rfl⟩,
        (ih (more.perm (items_add g i).symm)).2 ⟨items, rfl, all.perm (shift i items).symm, rfl⟩⟩

theorem take_eq_error {word : Word} {stop : Stop} (stopped : g.take word = .error stop)
    (help : word ≠ .help) (version : word ≠ .version) : stop = .invalid := by
  cases word with
  | help => exact absurd rfl help
  | version => exact absurd rfl version
  | unknown | stray | dashed | missing | unwanted => exact (Except.error.inj stopped).symm
  | item i =>
    cases i with
    | verbose => cases stopped
    | value | switch =>
      simp only [take, setValue, set] at stopped
      split_ifs at stopped
      exact (Except.error.inj stopped).symm

/-- Words that ask neither for help nor for the version are taken in or not understood. -/
theorem foldlM_take_eq_error {words : List Word} {stop : Stop}
    (stopped : words.foldlM take g = .error stop) (help : .help ∉ words)
    (version : .version ∉ words) : stop = .invalid := by
  induction words generalizing g with
  | nil => cases stopped
  | cons word words ih =>
    rw [List.foldlM_cons] at stopped
    cases taken : g.take word with
    | error =>
      rw [taken] at stopped
      cases stopped
      exact take_eq_error taken (List.ne_of_not_mem_cons help).symm
        (List.ne_of_not_mem_cons version).symm
    | ok between =>
      rw [taken] at stopped
      exact ih stopped (List.not_mem_of_not_mem_cons help) (List.not_mem_of_not_mem_cons version)

end Given

/-! ### Options -/

namespace Options

/-- What a command line gives for options, in one of the orders. -/
def given (options : Options) : Given where
  values := [ValueOption.annotations, .folder, .suffix, .output, .program].filterMap fun o =>
    (options.value? o).map (o, ·)
  switches := [Switch.noEvaluation, .json, .quiet, .noColor].filter options.has
  verbosity := options.verbosity

/-- Options that a command line can give: paths that are not empty, and not both quiet
and verbose. -/
structure IsConsistent (options : Options) : Prop where
  annotations : options.annotations ≠ ""
  folder : options.folder ≠ ""
  output : options.output ≠ some ""
  loudness : options.quiet = true → options.verbosity = 0

variable {options : Options}

theorem mem_values_given {o : ValueOption} {text : SystemText} :
    (o, text) ∈ options.given.values ↔ options.value? o = some text := by
  have all : o ∈ [ValueOption.annotations, .folder, .suffix, .output, .program] := by
    cases o <;> decide
  simp only [given, List.mem_filterMap, Option.map_eq_some_iff, Prod.mk.injEq]
  constructor
  · rintro ⟨_, -, _, value, rfl, rfl⟩
    exact value
  · exact fun value => ⟨o, all, text, value, rfl, rfl⟩

theorem mem_switches_given {s : Switch} : s ∈ options.given.switches ↔ options.has s := by
  have all : s ∈ [Switch.noEvaluation, .json, .quiet, .noColor] := by cases s <;> decide
  rw [given, List.mem_filter, and_iff_right all]

theorem admits_of_value? (consistent : options.IsConsistent) {o : ValueOption}
    {text : SystemText} (value : options.value? o = some text) : o.admits text := by
  have isText {text' : Option String} (given : text'.map SystemText.ofString = some text) :
      text.text?.isSome := by
    obtain ⟨s, -, rfl⟩ := Option.map_eq_some_iff.1 given
    rw [SystemText.text?_ofString, Option.isSome_some]
  cases o with
  | suffix | program => exact isText value
  | annotations =>
    cases value
    exact decide_eq_true consistent.annotations
  | folder =>
    cases value
    exact decide_eq_true consistent.folder
  | output =>
    refine decide_eq_true ?_
    rintro rfl
    exact consistent.output value

theorem IsConsistent.proper (consistent : options.IsConsistent) : Proper options.given.items := by
  have values : options.given.values.Pairwise fun entry entry' => entry.1 ≠ entry'.1 := by
    rw [given, List.pairwise_filterMap]
    have distinct : [ValueOption.annotations, .folder, .suffix, .output, .program].Nodup := by
      decide
    refine distinct.imp fun other => ?_
    simp only [Option.map_eq_some_iff]
    rintro _ ⟨_, -, rfl⟩ _ ⟨_, -, rfl⟩
    exact other
  have switches : options.given.switches.Nodup := List.Nodup.filter _ (by decide)
  exact Given.proper_items values switches fun o text entry =>
    admits_of_value? consistent (mem_values_given.1 entry)

end Options

/-- What is given makes up options if it is, in some order, what these stand for. -/
theorem Given.options?_eq_some_iff_perm {g : Given} {options : Options} (proper : Proper g.items) :
    g.options? = some options ↔ options.IsConsistent ∧ g.items.Perm options.given.items := by
  rw [options?_eq_some_iff]
  constructor
  · rintro ⟨values, switches, verbosity, loudness⟩
    have filled {o : ValueOption} {text : SystemText} (value : options.value? o = some text) :
        o.admits text :=
      proper.filled _ ((value?_eq_some_iff proper).1 ((values o).trans value))
    have consistent : options.IsConsistent := by
      refine ⟨fun empty => ?_, fun empty => ?_, fun empty => ?_, loudness⟩
      · exact of_decide_eq_true (@filled .annotations _ rfl) empty
      · exact of_decide_eq_true (@filled .folder _ rfl) empty
      · exact of_decide_eq_true (@filled .output _ empty) rfl
    refine ⟨consistent, (proper.perm_iff consistent.proper).2 ⟨fun i other => ?_, ?_⟩⟩
    · cases i with
      | value o text =>
        rw [← value?_eq_some_iff proper, values, value_mem_items, Options.mem_values_given]
      | switch s => rw [switch_mem_items, switches, switch_mem_items, Options.mem_switches_given]
      | verbose => exact absurd rfl other
    · rw [count_verbose_items, count_verbose_items, verbosity]
      rfl
  · rintro ⟨consistent, perm⟩
    refine ⟨fun o => ?_, fun s => ?_, ?_, consistent.loudness⟩
    · ext text
      rw [value?_eq_some_iff proper, perm.mem_iff, value_mem_items, Options.mem_values_given]
    · rw [← switch_mem_items, perm.mem_iff, switch_mem_items, Options.mem_switches_given]
    · rw [← count_verbose_items, perm.count_eq, count_verbose_items]
      rfl

end DetectionMerge.CommandLine
