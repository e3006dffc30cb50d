import DetectionMerge.Proofs.CommandLine.Switches

/-! The arguments that only say how a run is presented. A command line that is
accepted means the same otherwise without them, wherever they stand. -/

namespace DetectionMerge.CommandLine

open Traversal (bind_eq_ok_iff)

/-! ### Command lines that are accepted -/

/-- Reading the arguments, started with what was given before, ends well with what is
given then. -/
inductive Reads : Given → List SystemText → Given → Prop
  | nil (g : Given) : Reads g [] g
  | terminator {argument : SystemText} (g : Given) (form : formOf argument = .terminator) :
    Reads g [argument] g
  | short {g between h : Given} {argument : SystemText} {letters : List Text.Symbol}
    {rest : List SystemText}
    (form : formOf argument = .short letters) (set : g.setShort letters = .ok between)
    (reads : Reads between rest h) : Reads g (argument :: rest) h
  /-- A value behind an equals sign. -/
  | joined {g between h : Given} {argument name value : SystemText} {o : ValueOption}
    {rest : List SystemText} (form : formOf argument = .long name (some value))
    (known : longName? name = some (.value o)) (set : g.setValue o value = .ok between)
    (reads : Reads between rest h) : Reads g (argument :: rest) h
  /-- A value in an argument of its own. -/
  | apart {g between h : Given} {argument name value : SystemText} {o : ValueOption}
    {rest : List SystemText} (form : formOf argument = .long name none)
    (known : longName? name = some (.value o)) (plain : isDashed value = false)
    (set : g.setValue o value = .ok between) (reads : Reads between rest h) :
    Reads g (argument :: value :: rest) h
  | named {argument name : SystemText} {o : OptionName} {g between h : Given}
    {rest : List SystemText}
    (form : formOf argument = .long name none) (known : longName? name = some o)
    (set : g.set o = .ok between) (reads : Reads between rest h) : Reads g (argument :: rest) h

theorem Reads.read {g h : Given} {arguments : List SystemText} (reads : Reads g arguments h) :
    read g arguments = .ok h := by
  induction reads with
  | nil g => rfl
  | terminator g form => simp only [CommandLine.read, form, if_true]
  | short form set _ ih =>
    simp only [CommandLine.read, form]
    exact bind_eq_ok_iff.2 ⟨_, set, ih⟩
  | joined form known set _ ih =>
    simp only [CommandLine.read, form, known]
    exact bind_eq_ok_iff.2 ⟨_, set, ih⟩
  | apart form known plain set _ ih =>
    simp only [CommandLine.read, form, known, plain, Bool.false_eq_true, if_false]
    exact bind_eq_ok_iff.2 ⟨_, set, ih⟩
  | @named _ _ o _ _ _ _ form known set _ ih =>
    cases o with
    | value => cases set
    | switch | verbose | help | version =>
      simp only [CommandLine.read, form, known]
      exact bind_eq_ok_iff.2 ⟨_, set, ih⟩

theorem reads_of_read {h : Given} : ∀ (arguments : List SystemText) (g : Given),
    read g arguments = .ok h → Reads g arguments h
  | [], g, accepted => by
    cases accepted
    exact .nil _
  | argument :: rest, g, accepted => by
    unfold read at accepted
    cases form : formOf argument with
    | plain => simp [form] at accepted
    | terminator =>
      simp only [form] at accepted
      split_ifs at accepted with last
      cases accepted
      exact last ▸ .terminator _ form
    | short letters =>
      simp only [form] at accepted
      obtain ⟨between, set, accepted⟩ := bind_eq_ok_iff.1 accepted
      exact .short form set (reads_of_read rest between accepted)
    | long name value =>
      simp only [form] at accepted
      cases known : longName? name with
      | none => simp [known] at accepted
      | some o =>
        simp only [known] at accepted
        cases o with
        | value o =>
          cases value with
          | some value =>
            obtain ⟨between, set, accepted⟩ := bind_eq_ok_iff.1 accepted
            exact .joined form known set (reads_of_read rest between accepted)
          | none =>
            cases rest with
            | nil => cases accepted
            | cons value rest =>
              simp only at accepted
              split_ifs at accepted with dashed
              obtain ⟨between, set, accepted⟩ := bind_eq_ok_iff.1 accepted
              exact .apart form known (Bool.eq_false_iff.2 dashed) set
                (reads_of_read rest between accepted)
        | switch | verbose | help | version =>
          cases value with
          | some value => cases accepted
          | none =>
            obtain ⟨between, set, accepted⟩ := bind_eq_ok_iff.1 accepted
            exact .named form known set (reads_of_read rest between accepted)

/-! ### The arguments of the presentation -/

/-- Whether a name only says how a run is presented. -/
def OptionName.isPresentation : OptionName → Bool
  | .switch .json | .switch .quiet | .switch .noColor | .verbose => true
  | _ => false

/-- Whether an argument only says how the run is presented: `--json`, `--no-color`,
`--verbose`, `--quiet`, and short options put together from `v` and `q`. -/
def isPresentation (argument : SystemText) : Bool :=
  match formOf argument with
  | .short letters => letters.all fun letter => (shortName? letter).any OptionName.isPresentation
  | .long name none => (longName? name).any OptionName.isPresentation
  | _ => false

/-- The arguments that say what the run works on. -/
def workArguments (arguments : List SystemText) : List SystemText :=
  arguments.filter (! isPresentation ·)

def Given.work (g : Given) : Given :=
  { g with
    switches := g.switches.filter fun s => ! (OptionName.switch s).isPresentation
    verbosity := 0 }

/-- The work of a command line, presented in the plain way. -/
def Options.work (options : Options) : Options :=
  { options with
    json := false
    verbosity := 0
    quiet := false
    noColor := false }

variable {g h : Given} {argument : SystemText} {arguments rest : List SystemText}

/-! ### One argument -/

@[simp] theorem workArguments_nil : workArguments [] = [] := rfl

theorem workArguments_cons_of_presentation (presents : isPresentation argument) :
    workArguments (argument :: rest) = workArguments rest :=
  List.filter_cons_of_neg (by simp [presents])

theorem workArguments_cons_of_work (works : isPresentation argument = false) :
    workArguments (argument :: rest) = argument :: workArguments rest :=
  List.filter_cons_of_pos (by simp [works])

theorem isPresentation_of_long {name : SystemText} {o : OptionName}
    (form : formOf argument = .long name none) (known : longName? name = some o) :
    isPresentation argument = o.isPresentation := by
  simp only [isPresentation, form, known, Option.any_some]

theorem work_of_set {name : OptionName} (presents : name.isPresentation)
    (set : g.set name = .ok h) : h.work = g.work := by
  cases name with
  | value | help | version => cases presents
  | verbose =>
    cases set
    rfl
  | switch s =>
    simp only [Given.set] at set
    split_ifs at set
    cases set
    simp [Given.work, presents]

/-- Another name that is accepted is accepted without the presentation, too. -/
theorem set_work {name : OptionName} (works : name.isPresentation = false)
    (set : g.set name = .ok h) : g.work.set name = .ok h.work := by
  cases name with
  | value | help | version => cases set
  | verbose => cases works
  | switch s =>
    simp only [Given.set] at set
    split_ifs at set with repeated
    cases set
    have absent : s ∉ g.work.switches := fun member => repeated (List.mem_filter.1 member).1
    rw [Given.set, if_neg absent]
    simp [Given.work, works]

theorem setValue_work {o : ValueOption} {value : SystemText} (set : g.setValue o value = .ok h) :
    g.work.setValue o value = .ok h.work := by
  simp only [Given.setValue] at set
  split_ifs at set with refused
  cases set
  exact if_neg refused

/-- Short options that are accepted are all of the presentation. -/
theorem work_of_setShort {letters : List Text.Symbol} (set : g.setShort letters = .ok h) :
    (letters.all fun letter => (shortName? letter).any OptionName.isPresentation) ∧
      h.work = g.work := by
  induction letters generalizing g with
  | nil =>
    cases set
    exact ⟨rfl, rfl⟩
  | cons letter letters ih =>
    rw [Given.setShort, List.foldlM_cons] at set
    obtain ⟨between, first, set⟩ := bind_eq_ok_iff.1 set
    obtain ⟨presents, same⟩ := ih set
    cases known : shortName? letter with
    | none =>
      rw [known] at first
      cases first
    | some name =>
      rw [known, Option.elim_some] at first
      have presentation : name.isPresentation := by
        cases name with
        | verbose => rfl
        | value | help | version => cases first
        | switch s =>
          -- The only short switch is for quiet.
          obtain ⟨⟨_, _⟩, found, rfl⟩ := Option.map_eq_some_iff.1 known
          have member := List.mem_of_find?_eq_some found
          simp only [shortNames, List.mem_cons, Prod.mk.injEq, reduceCtorEq, and_false,
            OptionName.switch.injEq, List.not_mem_nil, or_false, false_or] at member
          rw [member.2]
          rfl
      refine ⟨?_, same.trans (work_of_set presentation first)⟩
      rw [List.all_cons, known, Option.any_some, presentation, Bool.true_and]
      exact presents

/-! ### The whole command line -/

theorem formOf_plain (plain : isDashed argument = false) : formOf argument = .plain := by
  rw [isDashed] at plain
  rw [formOf]
  split at plain
  · cases plain
  · next noDash =>
    split
    · next dashes => exact absurd dashes (noDash _ _)
    · next dashes => exact absurd dashes (noDash _ _)
    · next dash => exact absurd dash (noDash _ _)
    · rfl

/-- A value in an argument of its own has no dash with something behind it. -/
theorem isPresentation_of_not_isDashed (plain : isDashed argument = false) :
    isPresentation argument = false := by
  rw [isPresentation, formOf_plain plain]

/-- Reading and leaving out the presentation commute. -/
theorem Reads.work (reads : Reads g arguments h) :
    Reads g.work (workArguments arguments) h.work := by
  induction reads with
  | nil g => exact .nil _
  | @terminator argument g form =>
    have works : isPresentation argument = false := by rw [isPresentation, form]
    rw [workArguments_cons_of_work works]
    exact .terminator _ form
  | @short _ _ _ argument _ _ form set _ ih =>
    obtain ⟨presents, same⟩ := work_of_setShort set
    have presents : isPresentation argument = true := by rw [isPresentation, form]; exact presents
    rw [workArguments_cons_of_presentation presents, ← same]
    exact ih
  | @joined _ _ _ argument _ _ _ _ form known set _ ih =>
    have works : isPresentation argument = false := by rw [isPresentation, form]
    rw [workArguments_cons_of_work works]
    exact .joined form known (setValue_work set) ih
  | apart form known plain set _ ih =>
    rw [workArguments_cons_of_work (isPresentation_of_long form known),
      workArguments_cons_of_work (isPresentation_of_not_isDashed plain)]
    exact .apart form known plain (setValue_work set) ih
  | @named argument name o _ _ _ _ form known set _ ih =>
    cases presents : isPresentation argument with
    | true =>
      rw [workArguments_cons_of_presentation presents,
        ← work_of_set (isPresentation_of_long form known ▸ presents) set]
      exact ih
    | false =>
      rw [workArguments_cons_of_work presents]
      exact .named form known (set_work (isPresentation_of_long form known ▸ presents) set) ih

example : parse (workArguments ["--gt_json", "a", "-vv", "--det_folder", "b", "--json"]) =
    .run { annotations := "a", folder := "b" } := by decide +kernel

end DetectionMerge.CommandLine
