import DetectionMerge.Text.Utf8

/-! Texts of the operating system: the names of files, the arguments of programs and
the values of variables. They are bytes; most of them are the encoding of a text, but
nothing makes them so. -/

namespace DetectionMerge

/-- A text of the operating system. -/
structure SystemText where
  bytes : List UInt8
  deriving DecidableEq, Repr

namespace SystemText

def ofString (s : String) : SystemText := ⟨Text.Utf8.encode s.toList⟩

instance : Coe String SystemText := ⟨ofString⟩

instance : Inhabited SystemText := ⟨⟨[]⟩⟩

instance : Append SystemText := ⟨fun a b => ⟨a.bytes ++ b.bytes⟩⟩

instance : LE SystemText := ⟨fun a b => a.bytes ≤ b.bytes⟩

instance : DecidableLE SystemText := fun a b => inferInstanceAs (Decidable (a.bytes ≤ b.bytes))

/-- The text, unless the bytes are the encoding of none. -/
def text? (t : SystemText) : Option String := (Text.Utf8.decode? t.bytes).map String.ofList

/-- What is shown of the bytes: the text, with U+FFFD for parts that are not valid. -/
def display (t : SystemText) : String := String.ofList (Text.Utf8.decodeLossy t.bytes)

end SystemText

end DetectionMerge
