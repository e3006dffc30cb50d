import DetectionMerge.Host.Path
import DetectionMerge.Text.Terminal

/-! Notices: what the program says about its work beside its results, each with
a level and the part of the program that it comes from. -/

namespace DetectionMerge

/-- How important a notice is. -/
inductive Level
  | error | warn | info | debug | trace
  deriving DecidableEq, Repr

namespace Level

/-- A number that grows with detail. -/
def detail : Level → Nat
  | .error => 1
  | .warn => 2
  | .info => 3
  | .debug => 4
  | .trace => 5

def name : Level → String
  | .error => "ERROR"
  | .warn => "WARN"
  | .info => "INFO"
  | .debug => "DEBUG"
  | .trace => "TRACE"

/-- How the name is painted on a terminal. -/
def style : Level → String
  | .error => "1;31"
  | .warn => "33"
  | .info => "32"
  | .debug => "34"
  | .trace => "35"

def all : List Level := [.error, .warn, .info, .debug, .trace]

end Level

/-- A part of the program, named in log filters. -/
inductive Origin
  | program | configuration | merging | engine | evaluator
  deriving DecidableEq, Repr

def Origin.target : Origin → String
  | .program => "detmerge"
  | .configuration => "detmerge::config"
  | .merging => "detmerge::merge"
  | .engine => "detmerge::engine"
  | .evaluator => "detmerge::evaluator::pycocotools"

inductive Notice
  | configurationMissing (path : Path)
  | configurationUnreadable (path : Path) (cause : String)
  | configurationMalformed (path : Path) (cause : String)
  | configurationLoaded (path : Path)
  | settingsResolved (description : String)
  | notDetectionName (path : Path)
  | notRegularFile (path : Path)
  | unmatched (imageName : String)
  | holdsNoResult (path : Path) (imageId : Int64)
  | detectionsRead (count : Nat) (path : Path) (imageId : Int64)
  | imagesIndexed (count : Nat)
  | filesMatched (count : Nat)
  | evaluatorMissing (evaluator reason : String)
  | evaluationStarted (program : String) (images : Nat) (geometry : String)
  deriving DecidableEq, Repr

namespace Notice

def level : Notice → Level
  | .configurationUnreadable .. | .configurationMalformed .. | .unmatched _ => .warn
  | .imagesIndexed _ | .filesMatched _ => .info
  | _ => .debug

def origin : Notice → Origin
  | .configurationMissing _ | .configurationUnreadable .. | .configurationMalformed ..
  | .configurationLoaded _ => .configuration
  | .notDetectionName _ | .notRegularFile _ | .unmatched _ | .holdsNoResult ..
  | .detectionsRead .. => .merging
  | .imagesIndexed _ => .engine
  | .settingsResolved _ | .filesMatched _ | .evaluatorMissing .. => .program
  | .evaluationStarted .. => .evaluator

/-- What a notice says, without what has caused it. -/
def heading : Notice → String
  | .configurationMissing path => s!"no config file at {path.display}"
  | .configurationUnreadable path _ => s!"ignoring unreadable config {path.display}"
  | .configurationMalformed path _ => s!"ignoring malformed config {path.display}"
  | .configurationLoaded path => s!"loaded config from {path.display}"
  | .settingsResolved description => s!"resolved settings: {description}"
  | .notDetectionName path => s!"skipping non-detection entry {path.display}"
  | .notRegularFile path => s!"skipping non-file entry {path.display}"
  | .unmatched imageName => s!"{imageName} not found in GT. Skipped."
  | .holdsNoResult path imageId =>
    s!"{path.display} holds no result; image_id {imageId.toInt} not scored"
  | .detectionsRead count path imageId =>
    s!"{count} detections from {path.display} (image_id {imageId.toInt})"
  | .imagesIndexed count => s!"indexed {count} ground truth images"
  | .filesMatched count => s!"{count} detection files matched ground truth images"
  | .evaluatorMissing evaluator reason => s!"{evaluator} probe failed: {reason}"
  | .evaluationStarted program images geometry =>
    s!"running {program} on {images} images ({geometry})"

/-- What has caused a notice, if something else failed before. -/
def cause? : Notice → Option String
  | .configurationUnreadable _ cause | .configurationMalformed _ cause => some cause
  | _ => none

def text (n : Notice) : String := n.heading ++ (n.cause?.elim "" (": " ++ ·))

/-- The line of a notice, with the level's name painted or not. -/
def line (paints : Bool) (n : Notice) : String :=
  let name := if paints then Text.Terminal.painted n.level.style n.level.name else n.level.name
  s!"[{name}] {n.text}"

end Notice

end DetectionMerge
