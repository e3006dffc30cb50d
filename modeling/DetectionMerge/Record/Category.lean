/-! Category ids. A detector numbers its classes from zero without gaps; the
annotation files number categories from 1 to 90 and leave out ten of them. -/

namespace DetectionMerge

namespace Category

/-- The category ids in the order of the detector's classes. -/
def ids : List UInt32 :=
  [1, 2, 3, 4, 5, 6, 7, 8, 9, 10, 11, 13, 14, 15, 16, 17, 18, 19, 20, 21,
    22, 23, 24, 25, 27, 28, 31, 32, 33, 34, 35, 36, 37, 38, 39, 40, 41, 42, 43, 44,
    46, 47, 48, 49, 50, 51, 52, 53, 54, 55, 56, 57, 58, 59, 60, 61, 62, 63, 64, 65,
    67, 70, 72, 73, 74, 75, 76, 77, 78, 79, 80, 81, 82, 84, 85, 86, 87, 88, 89, 90]

/-- The numbers between 1 and 90 that are no category id. -/
def unusedIds : List UInt32 := [12, 26, 29, 30, 45, 66, 68, 69, 71, 83]

/-- The category id of a class label, if there is such a class. -/
def ofLabel? (label : Int64) : Option UInt32 :=
  if label.toInt < 0 then none else ids[label.toInt.toNat]?

end Category

end DetectionMerge
