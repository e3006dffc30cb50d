import DetectionMerge.Proofs.CommandLine.Values
import DetectionMerge.Proofs.Configuration
import DetectionMerge.Proofs.Run.Presentation

/-! Where the settings of a run come from. A field has the value that the command line
gives it, else the one that the configuration file supplies, else the standard one, and
no field depends on another. A file that is there and cannot be used supplies nothing at
all, and its warning is the only one about the configuration in the whole log. -/

namespace DetectionMerge

open DetectionMerge.Configuration (Field Uses)

/-! ### Notices about the configuration -/

/-- Whether a notice is about the configuration. -/
def Emission.isConfiguration : Emission → Bool
  | .notice n => n.origin = .configuration
  | .foreign _ => false

def Emission.isWarning : Emission → Bool
  | .notice n => n.level = .warn
  | .foreign _ => false

def configurationWarnings (log : List Emission) : List Emission :=
  (log.filter Emission.isConfiguration).filter Emission.isWarning

namespace Merged

variable {index : ImageIndex} {suffix : String}

theorem origin_of_skipped {folder : Path} {entries : List FolderEntry} :
    ∀ n ∈ FolderEntry.skipped folder entries, n.origin = .merging := by
  intro n member
  obtain ⟨entry, -, skipped⟩ := List.mem_filterMap.1 member
  cases file : entry.detectionFile folder with
  | ok => simp [file] at skipped
  | error notice =>
    simp only [file, Option.some.injEq] at skipped
    subst skipped
    rw [FolderEntry.detectionFile] at file
    split at file
    · cases file
      rfl
    · cases file
      rfl
    · cases file

theorem origin_of_add (merged : Merged) (file : DetectionFile) :
    ∀ n ∈ (add index suffix merged file).1, n.origin = .merging := by
  rw [add]
  split
  · simp [Notice.origin]
  · dsimp only
    split
    · exact List.forall_mem_nil _
    · simp [Notice.origin]
    · split <;> simp [Notice.origin]

theorem origin_of_addAll (merged : Merged) (files : List DetectionFile) :
    ∀ n ∈ (addAll index suffix merged files).1, n.origin = .merging := by
  induction files generalizing merged with
  | nil => exact List.forall_mem_nil _
  | cons file files ih =>
    have first : ∀ n ∈ (add index suffix merged file).1, n.origin = .merging :=
      origin_of_add merged file
    rw [addAll]
    generalize add index suffix merged file = added at first
    obtain ⟨notices, _ | merged⟩ := added
    · exact first
    · exact List.forall_mem_append.2 ⟨first, ih merged⟩

theorem origin_of_ofFolder {disk : Disk} {folder : Path} :
    ∀ n ∈ (ofFolder disk folder index suffix).1, n.origin = .merging := by
  rw [ofFolder]
  split
  · exact List.forall_mem_nil _
  · exact List.forall_mem_append.2 ⟨origin_of_skipped, origin_of_addAll _ _⟩

end Merged

namespace Run

/-- The run says nothing about the configuration. -/
def Unconfigured (r : Run) : Prop :=
  ∀ e, .emission e ∈ r.utterances → e.isConfiguration = false

variable {host : Host}

theorem unconfigured_ending (outcome : Outcome) : (ending outcome host).Unconfigured :=
  fun _ member => absurd member List.not_mem_nil

theorem Unconfigured.after {r : Run} {said : List Utterance} (h : r.Unconfigured)
    (before : ∀ e, .emission e ∈ said → e.isConfiguration = false) : (r.after said).Unconfigured :=
  fun e member => (List.mem_append.1 member).elim (before e) (h e)

theorem unconfigured_finish (t : Totals) : (finish t host).Unconfigured :=
  (unconfigured_ending _).after (by simp)

open Evaluation (ofProgram)

theorem isConfiguration_of_evaluate (program : String) (merged : Merged)
    (annotations output : Path) (host : Host) :
    ∀ e ∈ (merged.evaluate (ofProgram program) annotations output host).emissions,
      e.isConfiguration = false := by
  rw [Merged.evaluate]
  split_ifs
  · exact List.forall_mem_nil _
  · refine List.forall_mem_cons.2 ⟨rfl, ?_⟩
    unfold Evaluation.foreignErrors
    split
    · exact List.forall_mem_nil _
    · split_ifs
      · exact List.forall_mem_nil _
      · exact List.forall_mem_singleton.2 rfl

theorem unconfigured_evaluate (program : String) (s : Settings) (merged : Merged) :
    (evaluate (ofProgram program) s merged host).Unconfigured := by
  have emissions := isConfiguration_of_evaluate program merged s.annotations s.output host
  rw [evaluate]
  generalize merged.evaluate (ofProgram program) s.annotations s.output host = reply at emissions
  dsimp only
  cases reply.result with
  | error cause => exact (unconfigured_ending _).after (by simpa using emissions)
  | ok evaluated => exact (unconfigured_finish _).after (by simpa using emissions)

theorem unconfigured_save (program : String) (s : Settings) (merged : Merged) :
    (save (ofProgram program) s merged host).Unconfigured := by
  rw [save]
  obtain ⟨outcome, disk⟩ := Results.save host.disk s.output merged.detections
  refine .after ?_ (by simp)
  cases outcome with
  | error cause => exact unconfigured_ending _
  | ok =>
    dsimp only
    split_ifs
    · exact unconfigured_evaluate program s merged
    · exact unconfigured_finish _

theorem isConfiguration_of_notices {ns : List Notice}
    (others : ∀ n ∈ ns, n.origin ≠ .configuration) :
    ∀ e, .emission e ∈ notices ns → e.isConfiguration = false := by
  intro e member
  obtain ⟨n, inside, same⟩ := List.mem_map.1 member
  cases same
  exact decide_eq_false (others n inside)

theorem unconfigured_merge (program : String) (s : Settings) (index : ImageIndex) :
    (merge (ofProgram program) s index host).Unconfigured := by
  have origin : ∀ n ∈ (Merged.ofFolder host.disk s.folder index s.suffix).1, n.origin = .merging :=
    Merged.origin_of_ofFolder
  rw [merge]
  generalize Merged.ofFolder host.disk s.folder index s.suffix = outcome at origin
  have said := isConfiguration_of_notices fun n member same => by
    rw [origin n member] at same
    cases same
  refine .after ?_ (by simpa using said)
  cases outcome.2 with
  | error cause => exact unconfigured_ending _
  | ok merged =>
    exact (unconfigured_save program s merged).after
      (by simp [Emission.isConfiguration, Notice.origin])

theorem unconfigured_load (program : String) (s : Settings) :
    (load (ofProgram program) s host).Unconfigured := by
  have origin : ∀ n ∈ (Annotations.loadIndex host.disk s.annotations).1,
      n.origin ≠ .configuration := by
    rw [Annotations.loadIndex]
    split <;> simp [Notice.origin]
  rw [load]
  generalize Annotations.loadIndex host.disk s.annotations = outcome at origin
  refine .after ?_ (isConfiguration_of_notices origin)
  cases outcome.2 with
  | error cause => exact unconfigured_ending _
  | ok index => exact unconfigured_merge program s index

theorem unconfigured_all (program : String) (s : Settings) :
    (all (ofProgram program) s host).Unconfigured := by
  rw [all]
  refine .after ?_ (by simp)
  dsimp only
  split_ifs
  · refine .after ?_ (by simp [ofProgram])
    split
    · exact unconfigured_load program s
    · exact (unconfigured_ending _).after (by simp [Emission.isConfiguration, Notice.origin])
    · exact unconfigured_ending _
  · exact unconfigured_load program s

end Run

/-! ### Settings -/

namespace Settings

/-- The value of a field. -/
def textOf (s : Settings) : Field → SystemText
  | .suffix => s.suffix
  | .output => s.output.raw
  | .program => s.program

end Settings

namespace Program

variable {arguments : List SystemText} {options : CommandLine.Options} {env : Environment}
  {host : Host}

/-- The only notice about the configuration is the one of its file. -/
theorem filter_isConfiguration_logOf {configuration : Configuration} {n : Notice}
    (load : Configuration.load host.disk (Configuration.file env) = (configuration, n))
    (origin : n.origin = .configuration) :
    (logOf options env host).filter Emission.isConfiguration = [.notice n] := by
  have first : (settingsOf options env host.disk).2 = n := congrArg Prod.snd load
  have rest : (Printed.emissions (runOf options env host)).filter Emission.isConfiguration = [] := by
    rw [List.filter_eq_nil_iff]
    intro e member
    obtain ⟨u, inside, emission⟩ := List.mem_filterMap.1 member
    cases u with
    | step | progress | report => cases emission
    | emission e' =>
      cases emission
      exact Bool.eq_false_iff.1 (Run.unconfigured_all _ _ _ inside)
  have about : (Emission.notice n).isConfiguration = true := decide_eq_true origin
  have other : ∀ description, (Emission.notice (.settingsResolved description)).isConfiguration =
      false := fun _ => rfl
  rw [logOf, first, List.filter_cons_of_pos about, List.filter_cons_of_neg (by simp [other]), rest]

/-- A field of the settings, with the value that the arguments give it. -/
theorem textOf_settings {configuration : Configuration} {n : Notice}
    (accepted : CommandLine.parse arguments = .run options)
    (load : Configuration.load host.disk (Configuration.file env) = (configuration, n))
    (field : Field) :
    (settings options env host.disk).textOf field =
      (CommandLine.valueIn? field.option arguments).getD (field.textIn configuration) := by
  obtain ⟨suffix, output, program⟩ := CommandLine.values_of_parse accepted
  have resolved : settings options env host.disk = Settings.resolve options configuration := by
    rw [settings, settingsOf, load]
  rw [resolved]
  cases field with
  | suffix =>
    rw [Field.option, ← suffix]
    cases given : options.suffix <;> simp [Settings.textOf, Settings.resolve, given, Field.textIn]
  | output =>
    rw [Field.option, ← output]
    cases given : options.output <;> simp [Settings.textOf, Settings.resolve, given, Field.textIn]
  | program =>
    rw [Field.option, ← program]
    cases given : options.program <;> simp [Settings.textOf, Settings.resolve, given, Field.textIn]

/-- Each field has the value that the arguments give it, else what the configuration file
has for it, else its standard value. This holds of a file that is read as a document with
all sections and fields of their kinds, whatever else is in it. Without a file, and with
one that is of no use, all fields are without a value from it, and exactly in the second
case the log has a warning about the configuration, and no more than one. -/
theorem settings_of_parse (accepted : CommandLine.parse arguments = .run options) :
    (∀ t, Uses host.disk (Configuration.file env) t →
      (∀ field : Field, (settings options env host.disk).textOf field =
        (CommandLine.valueIn? field.option arguments).getD
          ((field.supplied? t).getD field.standard)) ∧
      configurationWarnings (logOf options env host) = []) ∧
    (host.disk.read (Configuration.file env) = .error .notFound →
      (∀ field : Field, (settings options env host.disk).textOf field =
        (CommandLine.valueIn? field.option arguments).getD field.standard) ∧
      configurationWarnings (logOf options env host) = []) ∧
    (host.disk.read (Configuration.file env) ≠ .error .notFound →
      (∀ t, ¬Uses host.disk (Configuration.file env) t) →
      (∀ field : Field, (settings options env host.disk).textOf field =
        (CommandLine.valueIn? field.option arguments).getD field.standard) ∧
      ∃ warning, configurationWarnings (logOf options env host) = [warning]) := by
  refine ⟨fun t uses => ?_, fun missing => ?_, fun present useless => ?_⟩
  · have load := Configuration.load_of_uses uses
    refine ⟨fun field => ?_, ?_⟩
    · rw [textOf_settings accepted load, Configuration.textIn_supplied]
    · rw [configurationWarnings, filter_isConfiguration_logOf load rfl]
      rfl
  · have load := Configuration.load_of_missing missing
    refine ⟨fun field => ?_, ?_⟩
    · rw [textOf_settings accepted load, Field.textIn_standard]
    · rw [configurationWarnings, filter_isConfiguration_logOf load rfl]
      rfl
  · obtain ⟨n, load, origin, level⟩ := Configuration.exists_load_of_not_uses present useless
    refine ⟨fun field => ?_, .notice n, ?_⟩
    · rw [textOf_settings accepted load, Field.textIn_standard]
    · rw [configurationWarnings, filter_isConfiguration_logOf load origin]
      exact List.filter_cons_of_pos (decide_eq_true level)

/-- The sample with a configuration file. -/
def configuredHost (text : String) : Host :=
  { sampleHost with disk := sampleDisk.put ["work", "c.toml"] (sampleFile text) }

def configuredEnvironment : Environment where
  bindings := [(Configuration.fileVariable, "c.toml")]
  accountHome := ⟨"/root"⟩

/-- One section as an array and one as a table, with a key that is not known. -/
def sampleConfiguration : String :=
  "evaluator = [\"py\"]\n[merge]\nother = 1\nimg_suffix = \".png\"\noutput_json = \"o.json\"\n"

theorem settings_of_sampleConfiguration :
    CommandLine.parse sampleArguments = .run sampleOptions ∧
      (∃ t, Uses (configuredHost sampleConfiguration).disk
        (Configuration.file configuredEnvironment) t) ∧
      ∀ field : Field, (settings sampleOptions configuredEnvironment
          (configuredHost sampleConfiguration).disk).textOf field =
        match field with
        | .suffix => ".png"
        | .output => "out.json"
        | .program => "py" := by
  have accepted : CommandLine.parse sampleArguments = .run sampleOptions := by decide +kernel
  have read : (configuredHost sampleConfiguration).disk.read
      (Configuration.file configuredEnvironment) =
        .ok (Text.Utf8.encode sampleConfiguration.toList) := by
    decide +kernel
  have described : (Toml.document? sampleConfiguration.toList).any (fun t =>
      Field.suffix.isTyped t && Field.output.isTyped t && Field.program.isTyped t &&
        Field.suffix.supplied? t == some ".png" && Field.program.supplied? t == some "py") = true := by
    decide +kernel
  cases document : Toml.document? sampleConfiguration.toList with
  | none =>
    rw [document] at described
    cases described
  | some t =>
    simp only [document, Option.any_some, Bool.and_eq_true, beq_iff_eq] at described
    obtain ⟨⟨⟨⟨suffix, output⟩, program⟩, png⟩, py⟩ := described
    have uses : Uses (configuredHost sampleConfiguration).disk
        (Configuration.file configuredEnvironment) t := by
      refine ⟨_, _, read, Text.Utf8.decode?_encode _, document, fun field => ?_⟩
      cases field
      · exact suffix
      · exact output
      · exact program
    obtain ⟨values, -⟩ := (settings_of_parse accepted).1 t uses
    refine ⟨accepted, ⟨t, uses⟩, fun field => (values field).trans ?_⟩
    cases field with
    | suffix =>
      rw [png]
      decide +kernel
    | output =>
      have given : CommandLine.valueIn? .output sampleArguments = some "out.json" := by
        decide +kernel
      rw [Field.option, given]
      rfl
    | program =>
      rw [py]
      decide +kernel

/-- A date in place of a section. -/
def datedConfiguration : String := "merge = 1979-05-27\n[evaluator]\npython = \"x\"\n"

/-- A section that is neither a table nor an array is not always an error: a date leaves
the other section as it is, and there is no warning. -/
theorem settings_of_datedConfiguration :
    CommandLine.parse sampleArguments = .run sampleOptions ∧
      (configuredHost datedConfiguration).disk.read (Configuration.file configuredEnvironment) =
        .ok (Text.Utf8.encode datedConfiguration.toList) ∧
      (∃ t, Toml.document? datedConfiguration.toList = some t ∧ t.get? "merge" = some .moment) ∧
      (settings sampleOptions configuredEnvironment
        (configuredHost datedConfiguration).disk).textOf .program = "x" ∧
      configurationWarnings (logOf sampleOptions configuredEnvironment
        (configuredHost datedConfiguration)) = [] := by
  refine ⟨by decide +kernel, by decide +kernel, ?_, by decide +kernel, by decide +kernel⟩
  have dated : ((Toml.document? datedConfiguration.toList).bind (·.get? "merge")).any (fun v =>
      match v with
      | .moment => true
      | _ => false) = true := by
    decide +kernel
  cases document : Toml.document? datedConfiguration.toList with
  | none =>
    rw [document] at dated
    cases dated
  | some t =>
    rw [document, Option.bind_some] at dated
    refine ⟨t, rfl, ?_⟩
    obtain ⟨v, found, moment⟩ := (Option.any_eq_true _ _).1 dated
    match v, moment with
    | .moment, _ => exact found

end Program

end DetectionMerge
