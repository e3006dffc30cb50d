import DetectionMerge.Proofs.CommandLine.Presentation

/-! The values of options on a command line that is accepted: what stands behind the
equals sign of the option's argument, or in the argument after it. All other arguments,
of the same option or not, are no part of it. -/

namespace DetectionMerge.CommandLine

open Traversal (bind_eq_ok_iff)

/-- The value that arguments give an option. -/
def valueIn? (o : ValueOption) : List SystemText → Option SystemText
  | [] => none
  | argument :: rest =>
    match formOf argument with
    | .long name value =>
      match longName? name, value, rest with
      | some (.value other), some value, rest => if other = o then some value else valueIn? o rest
      | some (.value other), none, value :: rest =>
        if other = o then some value else valueIn? o rest
      | _, _, rest => valueIn? o rest
    | _ => valueIn? o rest

variable {g h : Given} {arguments : List SystemText}

theorem value?_of_setValue {o other : ValueOption} {value : SystemText}
    (set : g.setValue other value = .ok h) :
    h.value? o = (g.value? o).or (if other = o then some value else none) := by
  rw [Given.setValue] at set
  split_ifs at set
  cases set
  rw [Given.value?, List.find?_append, Option.map_or]
  congr 1
  by_cases same : other = o <;> simp [same]

theorem values_of_set {name : OptionName} (set : g.set name = .ok h) : h.values = g.values := by
  cases name with
  | value | help | version => cases set
  | verbose =>
    cases set
    rfl
  | switch s =>
    rw [Given.set] at set
    split_ifs at set
    cases set
    rfl

theorem values_of_setShort {letters : List Text.Symbol} (set : g.setShort letters = .ok h) :
    h.values = g.values := by
  induction letters generalizing g with
  | nil =>
    cases set
    rfl
  | cons letter letters ih =>
    rw [Given.setShort, List.foldlM_cons] at set
    obtain ⟨between, first, set⟩ := bind_eq_ok_iff.1 set
    refine (ih set).trans ?_
    cases known : shortName? letter with
    | none =>
      rw [known] at first
      cases first
    | some name =>
      rw [known] at first
      exact values_of_set first

/-- What has been given before counts before the arguments. -/
theorem Reads.value? (reads : Reads g arguments h) (o : ValueOption) :
    h.value? o = (g.value? o).or (valueIn? o arguments) := by
  induction reads with
  | nil g => rw [valueIn?, Option.or_none]
  | terminator g form => simp only [valueIn?, form, Option.or_none]
  | short form set _ ih =>
    rw [ih, Given.value?, Given.value?, values_of_setShort set]
    simp only [valueIn?, form]
  | joined form known set _ ih =>
    rw [ih, value?_of_setValue set, Option.or_assoc]
    simp only [valueIn?, form, known]
    split_ifs <;> rfl
  | apart form known plain set _ ih =>
    rw [ih, value?_of_setValue set, Option.or_assoc]
    simp only [valueIn?, form, known]
    split_ifs <;> rfl
  | @named _ _ name _ _ _ _ form known set _ ih =>
    rw [ih, Given.value?, Given.value?, values_of_set set]
    cases name with
    | value => cases set
    | switch | verbose | help | version => simp only [valueIn?, form, known]

/-- The options of an accepted command line have the values that its arguments give. -/
theorem values_of_parse {options : Options} (accepted : parse arguments = .run options) :
    options.suffix.map SystemText.ofString = valueIn? .suffix arguments ∧
      options.output = valueIn? .output arguments ∧
      options.program.map SystemText.ofString = valueIn? .program arguments := by
  obtain ⟨g, reads, complete⟩ := parse_eq_run_iff.1 accepted
  obtain ⟨values, -⟩ := Given.options?_eq_some_iff.1 complete
  have given (o : ValueOption) : options.value? o = valueIn? o arguments :=
    (values o).symm.trans ((reads_of_read arguments {} reads).value? o)
  exact ⟨given .suffix, given .output, given .program⟩

end DetectionMerge.CommandLine
