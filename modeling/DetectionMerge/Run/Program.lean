import DetectionMerge.Run.Printed

/-! The program: from the command line, the environment and the machine to what
is printed and what becomes of the machine. Help and usage are texts of a library, given
here in its plain form, and so are the rules by which libraries decide about colours. -/

namespace DetectionMerge.Program

/-- The variable that selects notices when no verbosity switch is given. -/
def filterVariable : String := "RUST_LOG"

/-- Which notices are printed, and what is wrong with the variable's text. -/
def filterOf (options : CommandLine.Options) (env : Environment) :
    CommandLine.Filter × List CommandLine.FilterMistake :=
  if options.quiet then (CommandLine.Filter.uniform .error, [])
  else
    match options.verbosity, env.get? filterVariable with
    | 0, some value => CommandLine.Filter.ofText (value.text?.getD "")
    | n, _ => (CommandLine.Filter.uniform (CommandLine.Filter.levelOf n), [])

/-- The variable for the style of notices, which counts along with the one that
selects them. -/
def styleVariable : String := "RUST_LOG_STYLE"

/-- Whether a variable has a value other than a given one. -/
def isOther (env : Environment) (name value : String) : Bool :=
  (env.get? name).any fun (given : SystemText) => given ≠ value

/-- Whether a variable is set to something. -/
def isSet (env : Environment) (name : String) : Bool := isOther env name ""

/-- Whether a variable switches something on: any text but a zero does. -/
def switch? (env : Environment) (name : String) : Option Bool :=
  ((env.get? name).bind SystemText.text?).map (· ≠ "0")

/-- Whether the error output is a terminal that shows colours. -/
def showsColours (env : Environment) : Bool :=
  env.terminals.errors && (isOther env "CLICOLOR" "0" ||
    (env.get? "CLICOLOR").isNone && (isOther env "TERM" "dumb" || (env.get? "CI").isSome))

/-- Whether sequences for terminals are kept in notices. -/
def keepsSequences (options : CommandLine.Options) (env : Environment) : Bool :=
  let selects := !options.quiet && options.verbosity = 0 && (env.get? filterVariable).isSome
  let style := if selects then (env.get? styleVariable).bind SystemText.text? else none
  if style = some "always" then true
  else if style = some "never" then false
  else !isSet env "NO_COLOR" && (isSet env "CLICOLOR_FORCE" || showsColours env)

def wantsColours (options : CommandLine.Options) (env : Environment) : Bool :=
  !options.noColor && !isSet env "NO_COLOR"

/-- Whether texts are painted where they are to be painted. -/
def paints (env : Environment) : Bool :=
  if switch? env "CLICOLOR_FORCE" = some true then true
  else if (switch? env "NO_COLOR").isSome then false
  else (switch? env "CLICOLOR").getD true && env.terminals.output

/-- How a run is printed. -/
def styleOf (options : CommandLine.Options) (env : Environment) : Printed.Style where
  filter := (filterOf options env).1
  keepsSequences := keepsSequences options env
  paintsLevels := wantsColours options env && env.terminals.errors && paints env
  paintsSteps := wantsColours options env && env.terminals.output && paints env

/-- The line about what is wrong with the variable's text. -/
def warningLine (mistake : CommandLine.FilterMistake) : String :=
  s!"warning: {mistake.message}, ignoring it"

/-- The program's name and version. -/
def versionLine : String := "detmerge 0.1.0"

/-- The lines that tell how the program is used. -/
def usageLines : List String := [
  "Merge per-image detection files into COCO results and evaluate them",
  "",
  "Usage: detmerge [OPTIONS] --gt_json <PATH> --det_folder <DIR>",
  "",
  "Options:",
  "      --gt_json <PATH>       COCO annotations file (e.g. instances_val2017.json)",
  "      --det_folder <DIR>     Folder with detection result json files",
  "      --img_suffix <SUFFIX>  Image filename suffix [default: .jpg]",
  "      --output_json <PATH>   Merged detection output JSON path [default: result_coco_format.json]",
  "      --python <PROGRAM>     Python interpreter with pycocotools installed [default: python3]",
  "      --no-eval              Only merge; skip the COCO evaluation",
  "      --json                 Print a JSON report instead of progress messages",
  "  -v, --verbose...           More log output (-v info, -vv debug)",
  "  -q, --quiet                Only log errors",
  "      --no-color             Disable color",
  "  -h, --help                 Print help",
  "  -V, --version              Print version"]

def usage : String := String.join (usageLines.map Printed.lineOf)

/-- The settings of a run, with the notice about the configuration. -/
def settingsOf (options : CommandLine.Options) (env : Environment) (disk : Disk) :
    Settings × Notice :=
  let (configuration, notice) := Configuration.load disk (Configuration.file env)
  (Settings.resolve options configuration, notice)

/-- The end of a program that has run, with the machine after it. -/
def runWith (options : CommandLine.Options) (env : Environment) (host : Host) : Printed × Host :=
  let (settings, notice) := settingsOf options env host.disk
  let r := Run.all (Evaluation.ofProgram settings.program) settings host
  let before := [notice, .settingsResolved settings.description]
  let printed := Printed.ofRun options.json (styleOf options env) settings.output before r
  let warnings :=
    String.join ((filterOf options env).2.map fun mistake => Printed.lineOf (warningLine mistake))
  ({ printed with errors := Text.Utf8.encode warnings.toList ++ printed.errors }, r.host)

/-- The end of the program, with the machine after it. -/
def main (arguments : List SystemText) (env : Environment) (host : Host) : Printed × Host :=
  match CommandLine.parse arguments with
  | .run options => runWith options env host
  | .help => (⟨0, usage, []⟩, host)
  | .version => (⟨0, Printed.lineOf versionLine, []⟩, host)
  | .invalid => (⟨2, "", Text.Utf8.encode usage.toList⟩, host)

end DetectionMerge.Program
