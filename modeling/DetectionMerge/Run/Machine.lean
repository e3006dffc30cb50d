import DetectionMerge.Run.Program
import DetectionMerge.Shell.Launcher

/-! The machine that a run takes place on. A script in place of the evaluator can start the
program again, which then finds the same kind of machine. -/

namespace DetectionMerge.Program

open Shell (Tool toText toSystem ofString ofBytes)

/-- The program as a tool of scripts, whose own scripts run on a given machine. -/
def tool (machine : List (String × SystemText) → Launcher) : Tool := fun call =>
  let bindings := call.environment.map fun (name, value) => (toText name, toSystem value)
  let env : Environment := { bindings := bindings, accountHome := ⟨"/root"⟩ }
  let (printed, host) := main (call.arguments.map toSystem) env
    { disk := call.disk, launcher := machine bindings }
  { status := printed.status
    output := ofString printed.output
    errors := ofBytes printed.errors
    input := call.input
    disk := host.disk }

/-- A machine on which the program can be started again by its own scripts, so many levels
deep. -/
def machine : Nat → List (String × SystemText) → Launcher
  | 0 => Shell.launcherIn none
  | levels + 1 => Shell.launcherIn (some (tool (machine levels)))

end DetectionMerge.Program
