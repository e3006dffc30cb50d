import DetectionMerge.Proofs.CommandLine.Switches
import DetectionMerge.Proofs.Folder.RoundTrip
import DetectionMerge.Proofs.Run.Stages
import DetectionMerge.Run.Program

/-! What others see of a run: when the disk changes and to what, which programs
are started, and the exit status. The programs that are started are taken to
leave the disk as it is; the probe and the evaluation only read. Where a report would
have to name an output path that is no text, nothing is said about the status of a run
that has finished. -/

namespace DetectionMerge

open Evaluation (probeLaunch scoreLaunch probeResult scoreResult ofProgram)

/-! ### Programs that only read -/

/-- All programs leave the disk as it is. -/
def Launcher.KeepsDisk (launcher : Launcher) : Prop :=
  ∀ launch disk, (launcher launch disk).2 = disk

/-- The program starts on a disk and ends without an error. -/
def Launcher.Succeeds (launcher : Launcher) (launch : Launch) (disk : Disk) : Prop :=
  ∃ ended, (launcher launch disk).1 = .ok ended ∧ ended.status = 0

theorem Host.start_state {host : Host} (keeps : host.launcher.KeepsDisk) (launch : Launch) :
    (host.start launch).2 = { host with launches := host.launches ++ [launch] } := by
  change ({ host with disk := (host.launcher launch host.disk).2, launches := _ } : Host) = _
  rw [keeps launch host.disk]

namespace Evaluation

variable {program : String} {host : Host} {outcome : Except Fault Ended}

theorem probeResult_eq_ok_iff :
    probeResult program outcome = .ok () ↔ ∃ ended, outcome = .ok ended ∧ ended.status = 0 := by
  cases outcome with
  | error fault => simp [probeResult]
  | ok ended =>
    simp only [probeResult, Except.ok.injEq, exists_eq_left']
    split_ifs with zero
    · exact iff_of_true rfl zero
    · exact iff_of_false (by simp) zero

/-- A probe that fails says that the evaluator is missing, and nothing else. -/
theorem exists_missing_of_probeResult {cause : EvaluationError}
    (h : probeResult program outcome = .error cause) :
    ∃ name reason, cause = .missing name reason := by
  cases outcome with
  | error fault =>
    cases h
    exact ⟨_, _, rfl⟩
  | ok ended =>
    simp only [probeResult] at h
    split_ifs at h with zero
    cases h
    exact ⟨_, _, rfl⟩

theorem exists_scoreResult_eq_ok_iff :
    (∃ evaluated, scoreResult program outcome = .ok evaluated) ↔
      ∃ ended, outcome = .ok ended ∧ ended.status = 0 := by
  cases outcome with
  | error fault => simp [scoreResult]
  | ok ended =>
    simp only [scoreResult, Except.ok.injEq, exists_eq_left']
    split_ifs with zero
    · exact iff_of_true ⟨_, rfl⟩ zero
    · exact iff_of_false (by simp) zero

theorem probe_result (program : String) (host : Host) :
    ((ofProgram program).probe host).result =
      probeResult program (host.launcher (probeLaunch program) host.disk).1 := rfl

theorem probe_state (keeps : host.launcher.KeepsDisk) (program : String) :
    ((ofProgram program).probe host).state =
      { host with launches := host.launches ++ [probeLaunch program] } :=
  Host.start_state keeps _

end Evaluation

namespace Merged

variable {s : Settings} {merged : Merged} {host : Host}

def request (merged : Merged) (s : Settings) : Request where
  annotations := s.annotations
  detections := s.output
  imageIds := merged.imageIds

theorem evaluate_disk (keeps : host.launcher.KeepsDisk) :
    (merged.evaluate (ofProgram s.program) s.annotations s.output host).state.disk = host.disk := by
  rw [evaluate]
  split_ifs
  · rfl
  · exact keeps _ host.disk

theorem exists_evaluate_eq_ok_iff :
    (∃ evaluated, (merged.evaluate (ofProgram s.program) s.annotations s.output host).result =
        .ok evaluated) ↔
      merged.detections ≠ [] ∧
        host.launcher.Succeeds (scoreLaunch s.program (merged.request s)) host.disk := by
  rw [evaluate]
  split_ifs with nothing
  · rw [List.isEmpty_iff] at nothing
    simp [nothing]
  · rw [List.isEmpty_iff] at nothing
    exact Evaluation.exists_scoreResult_eq_ok_iff.trans (and_iff_right nothing).symm

end Merged

/-! ### Conditions on a run -/

namespace Settings

variable (s : Settings) (host : Host)

/-- The evaluator can be used, or it is not needed. -/
def Passes : Prop := s.evaluate = true → host.launcher.Succeeds (probeLaunch s.program) host.disk

/-- An evaluation is asked for, and the evaluator cannot be used. -/
def Lacks : Prop := s.evaluate = true ∧ ¬host.launcher.Succeeds (probeLaunch s.program) host.disk

/-- All stages that are asked for succeed. -/
structure Succeeds (merged : Merged) : Prop where
  probes : s.Passes host
  merges : s.Merges host.disk merged
  saves : (s.save host.disk merged).1 = .ok ()
  evaluates : s.evaluate = true → merged.detections ≠ [] ∧
    host.launcher.Succeeds (scoreLaunch s.program (merged.request s)) (s.save host.disk merged).2

end Settings

/-- The array of the detections is what an output path leads to. The exception is
a path that went through a symbolic link: the file is in the link's place, and
the path leads nowhere. -/
def Results.Left (before after : Disk) (output : Path) (detections : List Detection) : Prop :=
  let file : Node := .file { bytes := Text.Utf8.encode (Results.text detections) }
  after.stat output = .ok file ∨
    after.stat output = .error .notDirectory ∧
      ∃ place link, before.node? place = some (.link link) ∧ after.node? place = some file

theorem Results.left_of_save {before after : Disk} {output : Path} {detections : List Detection}
    (h : Results.save before output detections = (.ok (), after)) :
    Results.Left before after output detections :=
  Disk.stat_of_replaceFile (Results.replaceFile_of_save h)

namespace Run

variable {s : Settings} {host started after : Host} {merged : Merged} {outcome : Outcome}

theorem Starts.passes (h : Starts (ofProgram s.program) s host started) : s.Passes host := by
  intro enabled
  cases h with
  | probed _ answers => exact Evaluation.probeResult_eq_ok_iff.1 answers
  | unevaluated disabled =>
    rw [enabled] at disabled
    cases disabled

/-- Nothing but the record of the starts has changed when loading begins. -/
theorem Starts.exists_launches (keeps : host.launcher.KeepsDisk)
    (h : Starts (ofProgram s.program) s host started) :
    ∃ launches, started = { host with launches := launches } := by
  cases h with
  | probed => exact ⟨_, Evaluation.probe_state keeps _⟩
  | unevaluated => exact ⟨_, rfl⟩

/-- The disk after a run is the one before it, or the one after saving. -/
theorem Course.disk (keeps : host.launcher.KeepsDisk)
    (course : Course (ofProgram s.program) s host outcome after) :
    after.disk = host.disk ∧ (s.Passes host → ∀ merged, ¬s.Merges host.disk merged) ∨
      s.Passes host ∧ ∃ merged, s.Merges host.disk merged ∧
        after.disk = (s.save host.disk merged).2 := by
  cases course with
  | evaluatorMissing enabled error | notProbed enabled error =>
    rw [Evaluation.probe_result] at error
    rw [Evaluation.probe_state keeps]
    refine .inl ⟨rfl, fun passes => ?_⟩
    rw [Evaluation.probeResult_eq_ok_iff.2 (passes enabled)] at error
    cases error
  | notLoaded starts error =>
    obtain ⟨launches, rfl⟩ := starts.exists_launches keeps
    refine .inl ⟨rfl, fun _ merged ⟨index, loads, _⟩ => ?_⟩
    cases error.symm.trans loads
  | notMerged starts loads error =>
    obtain ⟨launches, rfl⟩ := starts.exists_launches keeps
    refine .inl ⟨rfl, fun _ merged ⟨index, loads', merges⟩ => ?_⟩
    cases loads.symm.trans loads'
    cases error.symm.trans merges
  | notSaved starts merges | unevaluated starts merges =>
    have passes := starts.passes
    obtain ⟨launches, rfl⟩ := starts.exists_launches keeps
    exact .inr ⟨passes, _, merges, Host.saved_disk _ _ _⟩
  | notEvaluated starts merges | evaluated starts merges =>
    have passes := starts.passes
    obtain ⟨launches, rfl⟩ := starts.exists_launches keeps
    refine .inr ⟨passes, _, merges, ?_⟩
    rw [Merged.evaluate_disk (by rwa [Host.saved_launcher]), Host.saved_disk]

theorem Course.disk_of_merges (keeps : host.launcher.KeepsDisk)
    (course : Course (ofProgram s.program) s host outcome after) (passes : s.Passes host)
    (merges : s.Merges host.disk merged) : after.disk = (s.save host.disk merged).2 := by
  obtain ⟨-, nothing⟩ | ⟨-, merged', merges', disk⟩ := course.disk keeps
  · exact absurd merges (nothing passes merged)
  · rw [merges.unique merges', disk]

theorem Course.disk_of_not_merges (keeps : host.launcher.KeepsDisk)
    (course : Course (ofProgram s.program) s host outcome after)
    (h : ¬(s.Passes host ∧ ∃ merged, s.Merges host.disk merged)) : after.disk = host.disk := by
  obtain ⟨disk, -⟩ | ⟨passes, merged, merges, -⟩ := course.disk keeps
  · exact disk
  · exact absurd ⟨passes, merged, merges⟩ h

/-- The status is zero if the evaluator is missing or all stages succeed. -/
theorem Course.status (keeps : host.launcher.KeepsDisk)
    (course : Course (ofProgram s.program) s host outcome after) :
    Printed.statusOf outcome = 0 ↔ s.Lacks host ∨ ∃ merged, s.Succeeds host merged := by
  cases course with
  | evaluatorMissing enabled error =>
    refine iff_of_true rfl (.inl ⟨enabled, fun succeeds => ?_⟩)
    rw [Evaluation.probe_result, Evaluation.probeResult_eq_ok_iff.2 succeeds] at error
    cases error
  | notProbed enabled error present =>
    obtain ⟨name, reason, missing⟩ := Evaluation.exists_missing_of_probeResult error
    exact absurd missing (present name reason)
  | notLoaded starts error =>
    have passes := starts.passes
    obtain ⟨launches, rfl⟩ := starts.exists_launches keeps
    refine iff_of_false Nat.one_ne_zero ?_
    rintro (⟨enabled, lacks⟩ | ⟨merged, -, ⟨index, loads, -⟩, -⟩)
    · exact lacks (passes enabled)
    · cases error.symm.trans loads
  | notMerged starts loads error =>
    have passes := starts.passes
    obtain ⟨launches, rfl⟩ := starts.exists_launches keeps
    refine iff_of_false Nat.one_ne_zero ?_
    rintro (⟨enabled, lacks⟩ | ⟨merged, -, ⟨index, loads', merges⟩, -⟩)
    · exact lacks (passes enabled)
    · cases loads.symm.trans loads'
      cases error.symm.trans merges
  | notSaved starts merges error =>
    have passes := starts.passes
    obtain ⟨launches, rfl⟩ := starts.exists_launches keeps
    refine iff_of_false Nat.one_ne_zero ?_
    rintro (⟨enabled, lacks⟩ | ⟨merged, -, merges', saves, -⟩)
    · exact lacks (passes enabled)
    · cases merges.unique merges'
      cases error.symm.trans saves
  | unevaluated starts merges saves disabled =>
    have passes := starts.passes
    obtain ⟨launches, rfl⟩ := starts.exists_launches keeps
    refine iff_of_true rfl (.inr ⟨_, passes, merges, saves, fun enabled => ?_⟩)
    rw [enabled] at disabled
    cases disabled
  | notEvaluated starts merges saves enabled error =>
    have passes := starts.passes
    obtain ⟨launches, rfl⟩ := starts.exists_launches keeps
    have unscored := mt Merged.exists_evaluate_eq_ok_iff.2 fun ⟨_, scores⟩ =>
      nomatch error.symm.trans scores
    rw [Host.saved_launcher, Host.saved_disk] at unscored
    refine iff_of_false Nat.one_ne_zero ?_
    rintro (⟨enabled, lacks⟩ | ⟨merged, -, merges', -, evaluates⟩)
    · exact lacks (passes enabled)
    · cases merges.unique merges'
      exact unscored (evaluates enabled)
  | evaluated starts merges saves enabled scores =>
    have passes := starts.passes
    obtain ⟨launches, rfl⟩ := starts.exists_launches keeps
    have evaluates := Merged.exists_evaluate_eq_ok_iff.1 ⟨_, scores⟩
    rw [Host.saved_launcher, Host.saved_disk] at evaluates
    exact iff_of_true rfl (.inr ⟨_, passes, merges, saves, fun _ => evaluates⟩)

theorem Course.launches (disabled : s.evaluate = false)
    (course : Course (ofProgram s.program) s host outcome after) :
    after.launches = host.launches := by
  cases course with
  | evaluatorMissing enabled | notProbed enabled | notEvaluated _ _ _ enabled
  | evaluated _ _ _ enabled =>
    rw [enabled] at disabled
    cases disabled
  | notLoaded starts | notMerged starts => rw [starts.eq_of_unevaluated disabled]
  | notSaved starts | unevaluated starts =>
    rw [Host.saved_launches, starts.eq_of_unevaluated disabled]

end Run

/-! ### The program -/

theorem Printed.exists_failed_of_statusOf_ne_zero {outcome : Outcome} (h : statusOf outcome ≠ 0) :
    ∃ failure, outcome = .failed failure := by
  cases outcome with
  | finished | evaluatorMissing => exact absurd rfl h
  | failed failure => exact ⟨failure, rfl⟩

/-- Only the report of a run that has finished names the output path. -/
theorem Printed.report?_eq_none_iff {output : Path} {outcome : Outcome} :
    report? output outcome = none ↔ output.raw.text? = none ∧ ∃ t, outcome = .finished t := by
  cases outcome with
  | finished t => simp [report?]
  | evaluatorMissing | failed => simp [report?]

namespace Program

open CommandLine (Options parse)

variable {options : Options} {env : Environment} {host : Host} {arguments : List SystemText}

def settings (options : Options) (env : Environment) (disk : Disk) : Settings :=
  (settingsOf options env disk).1

theorem settings_evaluate (options : Options) (env : Environment) (disk : Disk) :
    (settings options env disk).evaluate = options.evaluate := by
  simp only [settings, settingsOf, Settings.resolve]

theorem settings_unevaluated (options : Options) (env : Environment) (disk : Disk) :
    settings { options with evaluate := false } env disk =
      { settings options env disk with evaluate := false } := by
  simp only [settings, settingsOf, Settings.resolve]

def runOf (options : Options) (env : Environment) (host : Host) : Run :=
  let s := settings options env host.disk
  Run.all (ofProgram s.program) s host

/-- What is printed on the standard output, if it can be printed. -/
def output? (options : Options) (env : Environment) (host : Host) : Option String :=
  if options.json then
    Printed.report? (settings options env host.disk).output (runOf options env host).outcome
  else some (Printed.progress (styleOf options env).paintsSteps (runOf options env host))

/-- The results can be reported, if a report is asked for: the output path is a text. -/
def CanReport (options : Options) (s : Settings) : Prop :=
  options.json = true → s.output.raw.text?.isSome

theorem output?_eq_none_iff : output? options env host = none ↔
    ¬CanReport options (settings options env host.disk) ∧
      ∃ t, (runOf options env host).outcome = .finished t := by
  rw [output?, CanReport]
  split_ifs with json
  · simp [json, Printed.report?_eq_none_iff]
  · simp [json]

theorem runWith_output (options : Options) (env : Environment) (host : Host) :
    (runWith options env host).1.output = (output? options env host).getD "" := by
  simp only [runWith, Printed.ofRun, output?, runOf, settings]
  split <;> simp_all

theorem runWith_status_of_isSome (prints : (output? options env host).isSome) :
    (runWith options env host).1.status = Printed.statusOf (runOf options env host).outcome := by
  simp only [output?, runOf, settings] at prints
  simp only [runWith, Printed.ofRun, runOf, settings]
  split
  · rfl
  · simp_all

theorem runWith_status_of_none (silent : output? options env host = none) :
    (runWith options env host).1.status = Printed.abortStatus := by
  simp only [output?, runOf, settings] at silent
  simp only [runWith, Printed.ofRun, silent]

theorem runWith_status (can : CanReport options (settings options env host.disk)) :
    (runWith options env host).1.status = Printed.statusOf (runOf options env host).outcome := by
  refine runWith_status_of_isSome (Option.isSome_iff_ne_none.2 fun silent => ?_)
  exact (output?_eq_none_iff.1 silent).1 can

/-- A run that has not finished is reported in any case. -/
theorem runWith_status_of_not_finished
    (ends : ∀ t, (runOf options env host).outcome ≠ .finished t) :
    (runWith options env host).1.status = Printed.statusOf (runOf options env host).outcome := by
  refine runWith_status_of_isSome (Option.isSome_iff_ne_none.2 fun silent => ?_)
  obtain ⟨t, finished⟩ := (output?_eq_none_iff.1 silent).2
  exact ends t finished

theorem runWith_host (options : Options) (env : Environment) (host : Host) :
    (runWith options env host).2 = (runOf options env host).host := by
  simp only [runWith, runOf, settings]

theorem main_of_parse (accepted : parse arguments = .run options) :
    main arguments env host = runWith options env host := by
  simp only [main, accepted]

/-- What is printed about a missing evaluator depends on the settings and on what is said,
not on what becomes of the machine. -/
theorem runWith_printed_of_missing {other : Host}
    (configured : settingsOf options env other.disk = settingsOf options env host.disk)
    (said : (runOf options env other).utterances = (runOf options env host).utterances)
    (ends : (runOf options env host).outcome = .evaluatorMissing)
    (ends' : (runOf options env other).outcome = .evaluatorMissing) :
    (runWith options env other).1 = (runWith options env host).1 := by
  simp only [runOf, settings, configured] at said ends ends'
  simp only [runWith, Printed.ofRun, Printed.progress, Printed.emissions, Printed.report?,
    configured, said, ends, ends']
  split_ifs <;> rfl

/-! ### A missing evaluator -/

/-- A run without an evaluator that it needs ends after the probe. -/
theorem runOf_of_lacks (keeps : host.launcher.KeepsDisk)
    (lacks : (settings options env host.disk).Lacks host) :
    ∃ name reason,
      probeResult (settings options env host.disk).program (host.launcher
        (probeLaunch (settings options env host.disk).program) host.disk).1 =
          .error (.missing name reason) ∧
      runOf options env host = ⟨[.step "Loading COCO annotations...",
          .emission (.notice (.evaluatorMissing name reason)), .progress Run.installHint],
        .evaluatorMissing,
        { host with
          launches := host.launches ++ [probeLaunch (settings options env host.disk).program] }⟩ := by
  obtain ⟨enabled, unusable⟩ := lacks
  rw [Launcher.Succeeds, ← Evaluation.probeResult_eq_ok_iff] at unusable
  cases answer : probeResult (settings options env host.disk).program (host.launcher
      (probeLaunch (settings options env host.disk).program) host.disk).1 with
  | ok => exact absurd answer unusable
  | error cause =>
    obtain ⟨name, reason, rfl⟩ := Evaluation.exists_missing_of_probeResult answer
    refine ⟨name, reason, rfl, ?_⟩
    rw [runOf, Run.all_of_missing enabled answer, Evaluation.probe_state keeps]
    rfl

/-- Other files make no difference to such a run, unless they change the
configuration or what the probe answers. -/
theorem runWith_of_lacks {other : Host} (keeps : host.launcher.KeepsDisk)
    (keeps' : other.launcher.KeepsDisk) (lacks : (settings options env host.disk).Lacks host)
    (configured : settingsOf options env other.disk = settingsOf options env host.disk)
    (answers : (other.launcher (probeLaunch (settings options env host.disk).program)
        other.disk).1 =
      (host.launcher (probeLaunch (settings options env host.disk).program) host.disk).1) :
    (runWith options env other).1 = (runWith options env host).1 ∧
      (runWith options env other).2.disk = other.disk := by
  have same : settings options env other.disk = settings options env host.disk :=
    congrArg Prod.fst configured
  have lacks' : (settings options env other.disk).Lacks other := by
    rw [Settings.Lacks, same, Launcher.Succeeds, answers]
    exact lacks
  obtain ⟨name, reason, answer, run⟩ := runOf_of_lacks keeps lacks
  obtain ⟨name', reason', answer', run'⟩ := runOf_of_lacks keeps' lacks'
  rw [same, answers, answer] at answer'
  cases answer'
  refine ⟨runWith_printed_of_missing configured ?_ ?_ ?_, ?_⟩
  · rw [run, run']
  · rw [run]
  · rw [run']
  · rw [runWith_host, run']

/-! ### The order of the stages -/

/-- What holds of every run of the program, of its end as others see it and of the
machine after it. -/
structure StageOrder (arguments : List SystemText) (options : Options) (env : Environment)
    (s : Settings) (host : Host) (printed : Printed) (after : Host) : Prop where
  /-- The run takes a course in which the stages follow each other. -/
  course : ∃ outcome, Run.Course (ofProgram s.program) s host outcome after ∧
    (CanReport options s → printed.status = Printed.statusOf outcome)
  /-- The disk changes only if the probe was passed and the whole merge succeeded. -/
  unchanged : ¬(s.Passes host ∧ ∃ merged, s.Merges host.disk merged) → after.disk = host.disk
  /-- In this case the disk is left as saving has made it, whatever becomes of
  the evaluation. -/
  saved : ∀ merged, s.Passes host → s.Merges host.disk merged →
    after.disk = (s.save host.disk merged).2 ∧
      ((s.save host.disk merged).1 = .ok () →
        Results.Left host.disk after.disk s.output merged.detections)
  /-- If the evaluator is missing, nothing is done after the probe, and other
  files make no difference. -/
  missing : s.Lacks host → printed.status = 0 ∧
    after = { host with launches := host.launches ++ [probeLaunch s.program] } ∧
    ∀ other : Host, other.launcher.KeepsDisk →
      settingsOf options env other.disk = settingsOf options env host.disk →
      (other.launcher (probeLaunch s.program) other.disk).1 =
        (host.launcher (probeLaunch s.program) host.disk).1 →
      (runWith options env other).1 = printed ∧ (runWith options env other).2.disk = other.disk
  /-- The status is zero in this case, and if all stages succeed and the results can be
  reported. -/
  status : CanReport options s →
    (printed.status = 0 ↔ s.Lacks host ∨ ∃ merged, s.Succeeds host merged)
  /-- Whether they can be reported or not, it is one if a stage fails. -/
  failure : (¬s.Lacks host ∧ ∀ merged, ¬s.Succeeds host merged) → printed.status = 1
  /-- Without an evaluation no program is started. -/
  unevaluated : options.evaluate = false → after.launches = host.launches
  /-- The evaluation makes no difference to the disk once the probe is passed. -/
  same : s.Passes host → ∀ arguments',
    parse arguments' = .run { options with evaluate := false } →
      (main arguments' env host).2.disk = after.disk
  /-- One such command line is the same with the switch in front. -/
  switch : options.evaluate = true →
    parse ("--no-eval" :: arguments) = .run { options with evaluate := false }

theorem runOf_course (options : Options) (env : Environment) (host : Host) :
    Run.Course (ofProgram (settings options env host.disk).program)
      (settings options env host.disk) host (runOf options env host).outcome
      (runWith options env host).2 := by
  rw [runWith_host]
  exact Run.all_course _ _ _

/-- Turning the evaluation off does not change what becomes of the disk. -/
theorem disk_of_unevaluated (keeps : host.launcher.KeepsDisk)
    (passes : (settings options env host.disk).Passes host) :
    (runWith { options with evaluate := false } env host).2.disk =
      (runWith options env host).2.disk := by
  have course := runOf_course options env host
  have course' := runOf_course { options with evaluate := false } env host
  rw [settings_unevaluated] at course'
  have passes' : { settings options env host.disk with evaluate := false }.Passes host :=
    fun enabled => Bool.noConfusion enabled
  by_cases merges : ∃ merged, (settings options env host.disk).Merges host.disk merged
  · obtain ⟨merged, merges⟩ := merges
    rw [course.disk_of_merges keeps passes merges, course'.disk_of_merges keeps passes' merges]
    rfl
  · rw [course.disk_of_not_merges keeps (fun h => merges h.2),
      course'.disk_of_not_merges keeps (fun h => merges h.2)]

/-- Every command line that is accepted leads to such a run. -/
theorem main_stageOrder (accepted : parse arguments = .run options)
    (keeps : host.launcher.KeepsDisk) :
    StageOrder arguments options env (settings options env host.disk) host
      (main arguments env host).1 (main arguments env host).2 := by
  have course := runOf_course options env host
  rw [main_of_parse accepted]
  constructor
  case course => exact ⟨_, course, runWith_status⟩
  case unchanged => exact course.disk_of_not_merges keeps
  case saved =>
    intro merged passes merges
    have disk := course.disk_of_merges keeps passes merges
    exact ⟨disk, fun saves => Results.left_of_save (Prod.ext saves disk.symm)⟩
  case missing =>
    intro lacks
    obtain ⟨name, reason, -, run⟩ := runOf_of_lacks keeps lacks
    refine ⟨?_, ?_, fun other keeps' => runWith_of_lacks keeps keeps' lacks⟩
    · rw [runWith_status_of_not_finished (by simp [run]), run]
      rfl
    · rw [runWith_host, run]
  case status =>
    intro can
    rw [runWith_status can]
    exact course.status keeps
  case failure =>
    rintro ⟨enough, fails⟩
    have status := mt (course.status keeps).1 (not_or.2 ⟨enough, not_exists.2 fails⟩)
    obtain ⟨failure, failed⟩ := Printed.exists_failed_of_statusOf_ne_zero status
    rw [runWith_status_of_not_finished (by simp [failed]), failed]
    rfl
  case unevaluated =>
    intro disabled
    rw [← settings_evaluate options env host.disk] at disabled
    exact course.launches disabled
  case same =>
    intro passes arguments' accepted'
    rw [main_of_parse accepted']
    exact disk_of_unevaluated keeps passes
  case switch => exact CommandLine.parse_unevaluated accepted

/-! ### Two runs -/

def sampleFile (text : String) : Node := .file { bytes := Text.Utf8.encode text.toList }

/-- A working directory with an annotation file, a folder with one detection, and
a symbolic link to a directory. -/
def sampleDisk : Disk :=
  [("gt.json", sampleFile "\x7b\"images\":[\x7b\"file_name\":\"a.jpg\",\"id\":1\x7d]\x7d"),
    ("real", .directory), ("l", .link ⟨"real"⟩)].foldl (fun disk (name, node) =>
      disk.put ["work", name] node)
    (((Disk.blank "work").put ["work", "dets"] .directory).put ["work", "dets", "a.json"]
      (sampleFile Merged.sampleText))

/-- Every program ends well and writes nothing. -/
def silentLauncher : Launcher := fun _ disk => (.ok ⟨0, [], []⟩, disk)

def sampleHost : Host where
  disk := sampleDisk
  launcher := silentLauncher

/-- An environment without variables. -/
def sampleEnvironment : Environment where
  bindings := []
  accountHome := ⟨"/root"⟩

def sampleOptions : Options where
  annotations := "gt.json"
  folder := "dets"
  output := some "out.json"

def sampleArguments : List SystemText :=
  ["--gt_json", "gt.json", "--det_folder", "dets", "--output_json", "out.json"]

/-- A run in which all stages succeed, with two programs started. -/
theorem main_stageOrder_sampleHost :
    ∃ merged, (settings sampleOptions sampleEnvironment sampleDisk).Succeeds sampleHost merged ∧
      (main sampleArguments sampleEnvironment sampleHost).2.launches.length = 2 := by
  have accepted : parse sampleArguments = .run sampleOptions := by decide +kernel
  have run : (main sampleArguments sampleEnvironment sampleHost).1.status = 0 ∧
      (main sampleArguments sampleEnvironment sampleHost).2.launches.length = 2 := by
    decide +kernel
  have order : StageOrder sampleArguments sampleOptions sampleEnvironment _ sampleHost _ _ :=
    main_stageOrder accepted fun _ _ => rfl
  obtain lacks | ⟨merged, succeeds⟩ := (order.status nofun).1 run.1
  · exact absurd ⟨_, rfl, rfl⟩ lacks.2
  · exact ⟨merged, succeeds, run.2⟩

/-- The results go to a link to a directory, by a path through this link. -/
def linkOptions : Options := { sampleOptions with output := some "l/../l", evaluate := false }

def linkArguments : List SystemText :=
  ["--gt_json", "gt.json", "--det_folder", "dets", "--output_json", "l/../l", "--no-eval"]

/-- The results go to a path that is no text, and a report is asked for. -/
def textlessOptions : Options :=
  { sampleOptions with output := some ⟨[0xFF]⟩, evaluate := false, json := true }

def textlessArguments : List SystemText :=
  ["--gt_json", "gt.json", "--det_folder", "dets", "--output_json", ⟨[0xFF]⟩, "--no-eval", "--json"]

theorem exists_succeeds_of_unevaluated (disabled : options.evaluate = false)
    (ends : Printed.statusOf (runOf options sampleEnvironment sampleHost).outcome = 0) :
    ∃ merged, (settings options sampleEnvironment sampleDisk).Succeeds sampleHost merged := by
  have status := ((runOf_course options sampleEnvironment sampleHost).status fun _ _ => rfl).1 ends
  refine status.resolve_left fun lacks => ?_
  have enabled := lacks.1
  rw [settings_evaluate, disabled] at enabled
  cases enabled

/-- Two runs in which all stages succeed: after one the output path leads nowhere, and the
other does not end with status zero. -/
theorem exceptions_of_sampleHost :
    (parse linkArguments = .run linkOptions ∧
      (∃ merged, (settings linkOptions sampleEnvironment sampleDisk).Succeeds sampleHost merged) ∧
      (main linkArguments sampleEnvironment sampleHost).2.disk.stat ⟨"l/../l"⟩ =
        .error .notDirectory) ∧
    parse textlessArguments = .run textlessOptions ∧
      (∃ merged,
        (settings textlessOptions sampleEnvironment sampleDisk).Succeeds sampleHost merged) ∧
      (main textlessArguments sampleEnvironment sampleHost).1.status = Printed.abortStatus := by
  refine ⟨⟨by decide +kernel, ?_, by decide +kernel⟩, by decide +kernel, ?_, by decide +kernel⟩
  · exact exists_succeeds_of_unevaluated rfl (by decide +kernel)
  · exact exists_succeeds_of_unevaluated rfl (by decide +kernel)

end Program

end DetectionMerge
