import DetectionMerge.Text.Ranges

/-! White space: the 25 characters with the Unicode property `White_Space`,
and trimming a text of them. The byte order mark and the zero width space are
not among them. -/

namespace DetectionMerge.Text

/-- The code points with the property `White_Space`. -/
def blankRanges : List CodeRange :=
  [(0x09, 0x0D), (0x20, 0x20), (0x85, 0x85), (0xA0, 0xA0), (0x1680, 0x1680),
    (0x2000, 0x200A), (0x2028, 0x2029), (0x202F, 0x202F), (0x205F, 0x205F), (0x3000, 0x3000)]

/-- Whether a character is white space. -/
def isBlank (c : Char) : Bool := inRanges blankRanges c

/-- What follows the leading white space. -/
def trimLeft (cs : List Char) : List Char := cs.dropWhile isBlank

/-- What precedes the trailing white space. -/
def trimRight (cs : List Char) : List Char := (trimLeft cs.reverse).reverse

/-- The text without its leading and trailing white space. -/
def trim (cs : List Char) : List Char := trimRight (trimLeft cs)

end DetectionMerge.Text
