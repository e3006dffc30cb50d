import DetectionMerge.Text.Split
import DetectionMerge.Text.System

/-! Octets in shell scripts. A script works on octets; the character with an
octet's number stands for it here. -/

namespace DetectionMerge.Shell

/-- Octets, each as the character with its number. -/
abbrev Octets := List Char

def ofBytes (bytes : List UInt8) : Octets := bytes.map fun b => Char.ofNat b.toNat

def toBytes (cs : Octets) : List UInt8 := cs.map fun c => UInt8.ofNat c.toNat

def ofString (s : String) : Octets := ofBytes (Text.Utf8.encode s.toList)

def toText (cs : Octets) : String := String.ofList (Text.Utf8.decodeLossy (toBytes cs))

def ofSystem (t : SystemText) : Octets := ofBytes t.bytes

def toSystem (cs : Octets) : SystemText := ⟨toBytes cs⟩

def joined (separator : Char) (texts : List Octets) : Octets :=
  (texts.intersperse [separator]).flatten

/-- The lines of a text without their ends, and whether the last one has its
end. -/
def linesOf (cs : Octets) : List Octets × Bool :=
  let lines := Text.splitAt '\n' cs
  if lines.getLast? = some [] then (lines.dropLast, true) else (lines, false)

def ofLines (lines : List Octets) : Octets := lines.flatMap (· ++ ['\n'])

end DetectionMerge.Shell
