import DetectionMerge.CommandLine.Options
import DetectionMerge.Proofs.Text.System
import Mathlib.Order.Basic
import Mathlib.Tactic.ByContra
import Mathlib.Tactic.SplitIfs

/-! The options that a command line makes up. They are complete if the two paths are
given, and quiet excludes verbose; then each value and each switch is as it was given. -/

namespace DetectionMerge.CommandLine

namespace Options

def value? (options : Options) : ValueOption → Option SystemText
  | .annotations => some options.annotations
  | .folder => some options.folder
  | .suffix => options.suffix.map SystemText.ofString
  | .output => options.output
  | .program => options.program.map SystemText.ofString

def has (options : Options) : Switch → Bool
  | .noEvaluation => !options.evaluate
  | .json => options.json
  | .quiet => options.quiet
  | .noColor => options.noColor

end Options

/-- A value is read as a text if it is one, or missing. -/
theorem mapM_text?_eq_some_iff {value : Option SystemText} {text : Option String} :
    value.mapM SystemText.text? = some text ↔ value = text.map SystemText.ofString := by
  cases value with
  | none => cases text <;> simp
  | some value =>
    cases text <;> simp [SystemText.text?_eq_some_iff]

/-- What has been given makes up the options that agree with it, unless they are both quiet
and verbose. -/
theorem Given.options?_eq_some_iff {g : Given} {options : Options} : g.options? = some options ↔
    (∀ o, g.value? o = options.value? o) ∧ (∀ s, s ∈ g.switches ↔ options.has s) ∧
      g.verbosity = options.verbosity ∧ (options.quiet = true → options.verbosity = 0) := by
  constructor
  · intro complete
    obtain ⟨annotations, hannotations, complete⟩ := Option.bind_eq_some_iff.1 complete
    obtain ⟨folder, hfolder, complete⟩ := Option.bind_eq_some_iff.1 complete
    obtain ⟨suffix, hsuffix, complete⟩ := Option.bind_eq_some_iff.1 complete
    obtain ⟨program, hprogram, complete⟩ := Option.bind_eq_some_iff.1 complete
    rw [mapM_text?_eq_some_iff] at hsuffix hprogram
    split_ifs at complete with conflict
    cases complete
    refine ⟨fun o => ?_, fun s => ?_, rfl, fun quiet => ?_⟩
    · cases o <;> first | assumption | rfl
    · cases s <;> simp [Options.has]
    · by_contra verbose
      exact conflict ⟨of_decide_eq_true quiet, Nat.pos_of_ne_zero verbose⟩
  · rintro ⟨values, switches, verbosity, loudness⟩
    have has (s : Switch) : decide (s ∈ g.switches) = options.has s :=
      Bool.eq_iff_iff.2 (decide_eq_true_iff.trans (switches s))
    have conflict : ¬(.quiet ∈ g.switches ∧ 0 < options.verbosity) := by
      rintro ⟨quiet, verbose⟩
      rw [loudness ((switches .quiet).1 quiet)] at verbose
      exact Nat.lt_irrefl 0 verbose
    have text (text : Option String) :
        (text.map SystemText.ofString).mapM SystemText.text? = some text :=
      mapM_text?_eq_some_iff.2 rfl
    simp only [Given.options?, values, Options.value?, text, Option.bind_eq_bind, Option.bind_some,
      verbosity, if_neg conflict, decide_not, has, Options.has, Bool.not_not]
    rfl

theorem Given.exists_options?_eq_some {g : Given} (annotations : (g.value? .annotations).isSome)
    (folder : (g.value? .folder).isSome)
    (suffix : ∃ suffix, g.value? .suffix = Option.map SystemText.ofString suffix)
    (program : ∃ program, g.value? .program = Option.map SystemText.ofString program)
    (single : ¬(.quiet ∈ g.switches ∧ 0 < g.verbosity)) : ∃ options, g.options? = some options := by
  obtain ⟨annotations, hannotations⟩ := Option.isSome_iff_exists.1 annotations
  obtain ⟨folder, hfolder⟩ := Option.isSome_iff_exists.1 folder
  obtain ⟨suffix, hsuffix⟩ := suffix
  obtain ⟨program, hprogram⟩ := program
  rw [← mapM_text?_eq_some_iff] at hsuffix hprogram
  simp only [options?, hannotations, hfolder, hsuffix, hprogram, Option.bind_eq_bind,
    Option.bind_some, if_neg single]
  exact ⟨_, rfl⟩

/-- A command line is accepted if it is read to its end and complete. -/
theorem parse_eq_run_iff {arguments : List SystemText} {options : Options} :
    parse arguments = .run options ↔
      ∃ g, read {} arguments = .ok g ∧ g.options? = some options := by
  constructor
  · intro accepted
    unfold parse at accepted
    split at accepted
    · cases accepted
    · cases accepted
    · cases accepted
    · next g reads =>
      refine ⟨g, reads, ?_⟩
      cases complete : g.options? with
      | none => simp [complete] at accepted
      | some options' => simpa [complete] using accepted
  · rintro ⟨g, reads, complete⟩
    simp only [parse, reads, complete, Option.elim_some]

end DetectionMerge.CommandLine
