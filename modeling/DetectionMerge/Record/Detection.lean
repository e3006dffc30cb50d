import DetectionMerge.Json.Fields
import DetectionMerge.Json.Document
import DetectionMerge.Record.Category

/-! One detected box, in the form a detector writes (two corners and a class
label) and in the form of the results file (a corner, width and height, with
the ids of image and category). -/

namespace DetectionMerge

/-- A detection as a detector writes it. -/
structure CornerDetection where
  x1 : Binary64
  y1 : Binary64
  x2 : Binary64
  y2 : Binary64
  label : Int64
  confidence : Binary64
  deriving DecidableEq

/-- A detection of the results file. -/
structure Detection where
  imageId : Int64
  categoryId : UInt32
  x : Binary64
  y : Binary64
  width : Binary64
  height : Binary64
  score : Binary64
  deriving DecidableEq

/-- The nearest integer of 64 bits, the bounds standing for all beyond them. -/
def saturate (n : Int) : Int64 :=
  if n < Int64.minValue.toInt then Int64.minValue
  else if Int64.maxValue.toInt < n then Int64.maxValue
  else .ofInt n

namespace Binary64

/-- The integer part as an integer of 64 bits, saturated. NaN counts as zero. -/
def toInt64 : Binary64 → Int64
  | .finite x => saturate x.truncate
  | .infinite negative => if negative then Int64.minValue else Int64.maxValue
  | .nan => 0

end Binary64

namespace CornerDetection

/-- A class label: an integer of 64 bits, or else the integer part of a number. -/
def label? (v : Json) : Option Int64 :=
  match v.int64? with
  | some n => some n
  | none => v.real?.map Binary64.toInt64

/-- The keys of the record, in order. -/
def keys : List String := ["x1", "y1", "x2", "y2", "label", "conf"]

def ofJson? (v : Json) : Option CornerDetection := do
  match ← v.fields? keys with
  | [x1, y1, x2, y2, label, confidence] =>
    return ⟨← x1.real?, ← y1.real?, ← x2.real?, ← y2.real?, ← label? label, ← confidence.real?⟩
  | _ => none

def document (d : CornerDetection) : Json.Document :=
  .record [("x1", .real d.x1), ("y1", .real d.y1), ("x2", .real d.x2), ("y2", .real d.y2),
    ("label", .integer d.label.toInt), ("conf", .real d.confidence)]

/-- The same box in the form of the results file. Inverted corners give a
negative width or height. -/
def toDetection (d : CornerDetection) (imageId : Int64) (categoryId : UInt32) : Detection where
  imageId := imageId
  categoryId := categoryId
  x := d.x1
  y := d.y1
  width := d.x2 - d.x1
  height := d.y2 - d.y1
  score := d.confidence

end CornerDetection

namespace Detection

/-- The keys of the record, in order. -/
def keys : List String := ["image_id", "category_id", "bbox", "score"]

def ofJson? (v : Json) : Option Detection := do
  match ← v.fields? keys with
  | [imageId, categoryId, box, score] =>
    match ← box.items? with
    | [x, y, width, height] =>
      return ⟨← imageId.int64?, ← categoryId.uint32?, ← x.real?, ← y.real?, ← width.real?,
        ← height.real?, ← score.real?⟩
    | _ => none
  | _ => none

def document (d : Detection) : Json.Document :=
  .record [("image_id", .integer d.imageId.toInt), ("category_id", .integer d.categoryId.toNat),
    ("bbox", .list [.real d.x, .real d.y, .real d.width, .real d.height]), ("score", .real d.score)]

end Detection

end DetectionMerge
