/-! The lines of a text. A line ends at a line feed, and one carriage return
before the line feed belongs to the ending. A text that ends in a line feed has
no further, empty line. -/

namespace DetectionMerge.Text

/-- The lines of a text, without their endings. -/
def lines : List Char → List (List Char)
  | [] => []
  | '\r' :: '\n' :: rest => [] :: lines rest
  | '\n' :: rest => [] :: lines rest
  | c :: rest =>
    match lines rest with
    | [] => [[c]]
    | line :: more => (c :: line) :: more

end DetectionMerge.Text
