import DetectionMerge.Text.Split
import DetectionMerge.Text.System

/-! Paths as the user writes them, and the routes they describe. A path is bytes between
slashes; what is shown of it is a text. -/

namespace DetectionMerge

/-- A path, kept as written. -/
structure Path where
  raw : SystemText
  deriving DecidableEq, Repr

instance : Inhabited Path := ⟨⟨""⟩⟩

/-- A way through the directories: where it starts and the names to follow. -/
structure Route where
  absolute : Bool
  names : List SystemText
  deriving DecidableEq, Repr

namespace Path

/-- What stands between two names. -/
def slash : UInt8 := 0x2F

def isAbsolute (p : Path) : Bool := p.raw.bytes.head? = some slash

/-- What is shown of a path in messages. -/
def display (p : Path) : String := p.raw.display

/-- A name inside a folder: one slash between them, unless the folder already
ends in one. -/
def join (folder : Path) (name : SystemText) : Path :=
  if folder.raw.bytes.getLast?.all (· = slash) then ⟨folder.raw ++ name⟩
  else ⟨folder.raw ++ "/" ++ name⟩

/-- The names between slashes. Empty names stand for repeated and trailing
slashes. -/
def route (p : Path) : Route :=
  ⟨p.isAbsolute, (Text.splitAt slash p.raw.bytes).map SystemText.mk⟩

/-- The route to the folder that holds the path's last name. -/
def parent (p : Path) : Route :=
  ⟨p.isAbsolute, (p.route.names.filter fun (name : SystemText) => name ≠ "" ∧ name ≠ ".").dropLast⟩

/-- The folder that holds the path's last name, written as far as the folder's own
last name. -/
def folder (p : Path) : SystemText :=
  let isPlain (name : SystemText) : Bool := name ≠ "" ∧ name ≠ "."
  let above := (p.route.names.reverse.dropWhile fun name => !isPlain name).drop 1
  let names := (above.dropWhile fun name => !isPlain name).reverse
  ⟨List.intercalate [slash] (names.map SystemText.bytes)⟩

/-- The last name, unless the path ends in a slash or in a name that stands
for a directory. -/
def fileName? (p : Path) : Option SystemText :=
  p.route.names.getLast?.filter fun (name : SystemText) => name ≠ "" ∧ name ≠ "." ∧ name ≠ ".."

end Path

end DetectionMerge
