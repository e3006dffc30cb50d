import DetectionMerge.Pattern.Meaning
import DetectionMerge.Pattern.Reader
import DetectionMerge.Pattern.Search
import DetectionMerge.Pattern.Size

/-! The pattern that a text describes. Its parts are read first, then the depth of
their nesting is checked, then their meaning is found, and its size is checked in
the end; the first of these that fails tells what is wrong. -/

namespace DetectionMerge.Pattern

/-- Why a text describes no pattern that can be used. -/
inductive Refusal
  | mistake (m : Mistake)
  | tooLarge
  deriving DecidableEq, Repr

def Refusal.message (r : Refusal) (text : String) : String :=
  match r with
  | .mistake m => m.message text
  | .tooLarge => s!"Compiled regex exceeds size limit of {sizeLimit} bytes."

/-- The pattern that a text describes in a setting. -/
def read (s : Setting) (text : List Char) : Except Mistake Pattern := do
  let t ← Tree.ofText text
  t.checkDepth 0
  let (p, _) ← t.meaning s
  return p

def ofText (text : String) : Except Refusal Pattern :=
  match read {} text.toList with
  | .ok p => if p.fits then .ok p else .error .tooLarge
  | .error m => .error (.mistake m)

def ofOctets? (octets : List Char) (anyCase : Bool) : Option Pattern :=
  (read { repertoire := .octets, anyCase } octets).toOption

end DetectionMerge.Pattern
