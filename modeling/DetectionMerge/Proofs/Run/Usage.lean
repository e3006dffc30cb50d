import DetectionMerge.Proofs.CommandLine.Defects
import DetectionMerge.Proofs.Run.Program

/-! How the program can be called. All ways to give the same options lead to the same
run, whatever their order and spelling; a command line with a defect leads to none. -/

namespace DetectionMerge.Program

open CommandLine

variable {options : Options} {arguments : List SystemText} {words : List Word}

/-! ### Verbosity -/

theorem filterOf_of_verbose (quiet : options.quiet = false) (verbose : 0 < options.verbosity)
    (env : Environment) :
    filterOf options env = (Filter.uniform (Filter.levelOf options.verbosity), []) := by
  rw [filterOf, quiet, if_neg Bool.false_ne_true]
  split
  · next zero _ => exact absurd zero (Nat.ne_of_gt verbose)
  · rfl

theorem levelOf_of_three_le {n : Nat} (many : 3 ≤ n) : Filter.levelOf n = .trace := by
  obtain ⟨more, rfl⟩ := Nat.exists_eq_add_of_le' many
  rfl

/-! ### Calls -/

/-- A call that is not understood ends with status 2 and leaves the machine as it was. What
is printed depends on nothing that could be looked at. -/
theorem main_of_invalid (refused : parse arguments = .invalid) :
    ∃ printed : Printed, printed.status = 2 ∧
      ∀ env host, main arguments env host = (printed, host) := by
  refine ⟨⟨2, "", Text.Utf8.encode usage.toList⟩, rfl, fun env host => ?_⟩
  simp only [main, refused]

/-- What a call with some arguments comes to, by what they say. -/
structure Usage (arguments : List SystemText) (words : List Word) : Prop where
  /-- All ways to give the same options lead to the same run. -/
  runs (options : Options) (consistent : options.IsConsistent)
    (gives : words.Perm options.words) : parse arguments = .run options ∧
      ∀ env host, main arguments env host = runWith options env host
  /-- The log is as verbose as the options say, however often they say it. -/
  logs (options : Options) (consistent : options.IsConsistent)
    (gives : words.Perm options.words) (env : Environment) :
      (options.verbosity = 1 → filterOf options env = (Filter.uniform .info, [])) ∧
      (options.verbosity = 2 → filterOf options env = (Filter.uniform .debug, [])) ∧
      (3 ≤ options.verbosity → filterOf options env = (Filter.uniform .trace, []))
  /-- With a defect nothing is looked at, changed or started. -/
  refuses (help : .help ∉ words) (version : .version ∉ words) (defective : Defective words) :
    ∃ printed : Printed, printed.status = 2 ∧
      ∀ env host, main arguments env host = (printed, host)
  /-- What has no defect gives options. -/
  completes (help : .help ∉ words) (version : .version ∉ words) (sound : ¬Defective words) :
    ∃ options : Options, options.IsConsistent ∧ words.Perm options.words

/-- All arguments say exactly one thing, all options can be given, and what is said decides
what a call comes to. -/
theorem usage_of_expresses :
    (∀ arguments, ∃! words, Expresses arguments words) ∧
    (∀ options : Options, ∃ arguments, Expresses arguments options.words) ∧
    ∀ arguments words, Expresses arguments words → Usage arguments words := by
  refine ⟨existsUnique_expresses, fun options => exists_expresses_items _, ?_⟩
  intro arguments words expresses
  constructor
  case runs =>
    intro options consistent gives
    have accepted := expresses.parse_eq_run_iff_perm.2 ⟨consistent, gives⟩
    exact ⟨accepted, fun env host => main_of_parse accepted⟩
  case logs =>
    intro options consistent gives env
    have filter (verbose : 0 < options.verbosity) :=
      filterOf_of_verbose (Bool.eq_false_iff.2 fun quiet =>
        Nat.ne_of_gt verbose (consistent.loudness quiet)) verbose env
    refine ⟨fun once => ?_, fun twice => ?_, fun often => ?_⟩
    · rw [filter (by omega), once, Filter.levelOf]
    · rw [filter (by omega), twice, Filter.levelOf]
    · rw [filter (by omega), levelOf_of_three_le often]
  case refuses =>
    intro help version defective
    exact main_of_invalid ((expresses.parse_eq_invalid_iff help version).2 defective)
  case completes =>
    intro help version sound
    obtain ⟨options, accepted⟩ := expresses.exists_parse_eq_run sound help version
    exact ⟨options, expresses.parse_eq_run_iff_perm.1 accepted⟩

/-- Two spellings, a value with a dash, and verbosity in three ways. -/
def variedArguments : List SystemText :=
  ["-vv", "--det-folder", "dets", "--img_suffix=-x.jpg", "--verbose", "--gt_json=gt.json",
    "--no-eval", "-v"]

def variedWords : List Word :=
  [.item .verbose, .item .verbose, .item (.value .folder "dets"),
    .item (.value .suffix "-x.jpg"), .item .verbose, .item (.value .annotations "gt.json"),
    .item (.switch .noEvaluation), .item .verbose]

def variedOptions : Options where
  annotations := "gt.json"
  folder := "dets"
  suffix := some "-x.jpg"
  evaluate := false
  verbosity := 4

/-- The same path in two spellings. -/
def repeatedArguments : List SystemText :=
  ["--gt_json", "a", "--det_folder=b", "--gt-json=c"]

theorem usage_of_variedArguments :
    (∀ env host, main variedArguments env host = runWith variedOptions env host) ∧
    (∀ env, filterOf variedOptions env = (Filter.uniform .trace, [])) ∧
    ∃ printed : Printed, printed.status = 2 ∧
      ∀ env host, main repeatedArguments env host = (printed, host) := by
  obtain ⟨-, -, means⟩ := usage_of_expresses
  have varied : Expresses variedArguments variedWords := by decide +kernel
  have repeated : Expresses repeatedArguments
      [.item (.value .annotations "a"), .item (.value .folder "b"),
        .item (.value .annotations "c")] := by
    decide +kernel
  have consistent : variedOptions.IsConsistent :=
    ⟨by decide, by decide, by decide, fun quiet => by cases quiet⟩
  have gives : variedWords.Perm variedOptions.words := by decide
  refine ⟨((means _ _ varied).runs _ consistent gives).2, fun env => ?_, ?_⟩
  · exact ((means _ _ varied).logs _ consistent gives env).2.2 (by decide)
  · exact (means _ _ repeated).refuses (by decide) (by decide)
      (.repetition (.value .annotations "a" "c") (by decide))

end DetectionMerge.Program
