import DetectionMerge.Proofs.CommandLine.Options
import DetectionMerge.Proofs.Traversal

/-! One switch more on a command line. A command line that does not turn the
evaluation off means the same otherwise when the switch for it is put in front. -/

namespace DetectionMerge.CommandLine

/-- The same options with the evaluation turned off first. -/
def Given.unevaluated (g : Given) : Given := { g with switches := .noEvaluation :: g.switches }

/-- A step that takes no switch away, and that takes place in the same way when
the evaluation was turned off before, unless it does so itself. -/
def KeepsSwitches (step : Given → Except Stop Given) : Prop :=
  ∀ g h, step g = .ok h → (∀ s ∈ g.switches, s ∈ h.switches) ∧
    (.noEvaluation ∉ h.switches → step g.unevaluated = .ok h.unevaluated)

namespace KeepsSwitches

theorem ok : KeepsSwitches .ok := by
  rintro g _ ⟨⟩
  exact ⟨fun _ member => member, fun _ => rfl⟩

theorem error (stop : Stop) : KeepsSwitches fun _ => .error stop := fun _ _ h => nomatch h

theorem bind {first second : Given → Except Stop Given} (hfirst : KeepsSwitches first)
    (hsecond : KeepsSwitches second) : KeepsSwitches fun g => (first g).bind second := by
  intro g h run
  obtain ⟨between, begun, ended⟩ := Traversal.bind_eq_ok_iff.1 run
  obtain ⟨within, begins⟩ := hfirst g between begun
  obtain ⟨within', ends⟩ := hsecond between h ended
  refine ⟨fun s member => within' s (within s member), fun absent => ?_⟩
  simp only [begins fun member => absent (within' _ member)]
  exact ends absent

theorem setValue (o : ValueOption) (value : SystemText) : KeepsSwitches (·.setValue o value) := by
  intro g h set
  simp only [Given.setValue] at set
  split_ifs at set with refused
  cases set
  exact ⟨fun _ member => member, fun _ => if_neg refused⟩

theorem set (name : OptionName) : KeepsSwitches (·.set name) := by
  intro g h set
  cases name with
  | value | help | version => cases set
  | verbose =>
    cases set
    exact ⟨fun _ member => member, fun _ => rfl⟩
  | switch s =>
    simp only [Given.set] at set
    split_ifs at set with repeated
    cases set
    refine ⟨fun _ member => List.mem_append_left _ member, fun absent => if_neg ?_⟩
    simp only [List.mem_append, List.mem_singleton, not_or] at absent
    simp only [Given.unevaluated, List.mem_cons, not_or]
    exact ⟨fun same => absent.2 same.symm, repeated⟩

theorem setShort (letters : List Text.Symbol) : KeepsSwitches (·.setShort letters) := by
  induction letters with
  | nil => exact ok
  | cons letter letters ih =>
    have sets : KeepsSwitches fun g => (shortName? letter).elim (.error .invalid) g.set := by
      cases shortName? letter with
      | none => exact error .invalid
      | some name => exact set name
    exact sets.bind ih

theorem read : ∀ arguments, KeepsSwitches (CommandLine.read · arguments)
  | [] => ok
  | argument :: rest => by
    unfold CommandLine.read
    cases formOf argument with
    | terminator =>
      dsimp only
      split_ifs
      · exact ok
      · exact error .invalid
    | plain => exact error .invalid
    | short letters => exact (setShort letters).bind (read rest)
    | long name value =>
      dsimp only
      cases longName? name with
      | none => exact error .invalid
      | some o =>
        cases o with
        | value o =>
          cases value with
          | some value => exact (setValue o value).bind (read rest)
          | none =>
            match rest with
            | [] => exact error .invalid
            | value :: rest =>
              dsimp only
              split_ifs
              · exact error .invalid
              · exact (setValue o value).bind (read rest)
        | switch | verbose | help | version =>
          cases value with
          | some value => exact error .invalid
          | none => exact (set _).bind (read rest)

end KeepsSwitches

theorem options?_unevaluated {g : Given} {options : Options} (complete : g.options? = some options) :
    g.unevaluated.options? = some { options with evaluate := false } := by
  obtain ⟨values, switches, verbosity, loudness⟩ := Given.options?_eq_some_iff.1 complete
  refine Given.options?_eq_some_iff.2 ⟨fun o => ?_, fun s => ?_, verbosity, loudness⟩
  · cases o <;> exact values _
  · rw [Given.unevaluated, List.mem_cons, switches]
    cases s <;> simp [Options.has]

theorem parse_unevaluated {arguments : List SystemText} {options : Options}
    (accepted : parse arguments = .run options) (enabled : options.evaluate = true) :
    parse ("--no-eval" :: arguments) = .run { options with evaluate := false } := by
  obtain ⟨g, reads, complete⟩ := parse_eq_run_iff.1 accepted
  have absent : .noEvaluation ∉ g.switches := by
    rw [(Given.options?_eq_some_iff.1 complete).2.1, Options.has, enabled]
    exact Bool.false_ne_true
  have reads' : CommandLine.read {} ("--no-eval" :: arguments) = .ok g.unevaluated :=
    (KeepsSwitches.read arguments {} g reads).2 absent
  exact parse_eq_run_iff.2 ⟨_, reads', options?_unevaluated complete⟩

end DetectionMerge.CommandLine
