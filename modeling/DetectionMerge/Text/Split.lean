/-! Cutting a text at a separator. -/

namespace DetectionMerge.Text

/-- The parts of a text between separators. There is one part more than there
are separators, so an empty text has one empty part. -/
def splitAt {α : Type} [DecidableEq α] (separator : α) : List α → List (List α)
  | [] => [[]]
  | a :: rest =>
    if a = separator then [] :: splitAt separator rest
    else
      match splitAt separator rest with
      | [] => [[a]]
      | part :: parts => (a :: part) :: parts

end DetectionMerge.Text
