import DetectionMerge.Proofs.Folder.RoundTrip

/-! The lists of detections that survive being written and read: those whose
numbers are finite. What was read from a file is such a list, so writing it and
reading it again changes nothing any more, however the file was spelled. -/

namespace DetectionMerge

/-! ### What is read is finite -/

namespace Detection

theorem isFinite_of_ofJson? {v : Json} {d : Detection} (h : ofJson? v = some d) :
    d.isFinite := by
  obtain ⟨fields, -, h⟩ := Option.bind_eq_some_iff.1 h
  split at h
  case h_2 => cases h
  obtain ⟨box, -, h⟩ := Option.bind_eq_some_iff.1 h
  split at h
  case h_2 => cases h
  obtain ⟨imageId, -, h⟩ := Option.bind_eq_some_iff.1 h
  obtain ⟨categoryId, -, h⟩ := Option.bind_eq_some_iff.1 h
  obtain ⟨x, hx, h⟩ := Option.bind_eq_some_iff.1 h
  obtain ⟨y, hy, h⟩ := Option.bind_eq_some_iff.1 h
  obtain ⟨width, hwidth, h⟩ := Option.bind_eq_some_iff.1 h
  obtain ⟨height, hheight, h⟩ := Option.bind_eq_some_iff.1 h
  obtain ⟨score, hscore, h⟩ := Option.bind_eq_some_iff.1 h
  cases h
  simp only [isFinite, Json.isFinite_of_real? hx, Json.isFinite_of_real? hy,
    Json.isFinite_of_real? hwidth, Json.isFinite_of_real? hheight, Json.isFinite_of_real? hscore,
    Bool.and_self]

theorem all_isFinite_of_decodes {items : List Json} {detections : List Detection}
    (h : List.Forall₂ (fun item d => ofJson? item = some d) items detections) :
    detections.all isFinite := by
  induction h with
  | nil => rfl
  | cons decoded _ ih => rw [List.all_cons, isFinite_of_ofJson? decoded, ih, Bool.and_self]

end Detection

namespace Results

open Text (Utf8.encode)

variable {disk : Disk} {path : Path} {detections : List Detection}

theorem all_isFinite_of_ofBytes? {bytes : List UInt8} (h : ofBytes? bytes = some detections) :
    detections.all Detection.isFinite := by
  obtain ⟨v, -, h⟩ := Option.bind_eq_some_iff.1 h
  obtain ⟨items, -, h⟩ := Option.bind_eq_some_iff.1 h
  exact Detection.all_isFinite_of_decodes (Traversal.mapM_eq_some_iff.1 h)

theorem load_of_read {bytes : List UInt8} (h : disk.read path = .ok bytes) :
    load disk path = (ofBytes? bytes).elim (.error (.malformed path)) .ok := by
  obtain ⟨node, opened, read⟩ := Traversal.bind_eq_ok_iff.1 h
  simp only [load, opened, read, Except.toOption, Option.bind_some]
  cases ofBytes? bytes <;> rfl

theorem all_isFinite_of_load (h : load disk path = .ok detections) :
    detections.all Detection.isFinite := by
  rw [load] at h
  split at h
  · cases h
  · split at h
    · next decoded =>
      cases h
      obtain ⟨bytes, -, decoded⟩ := Option.bind_eq_some_iff.1 decoded
      exact all_isFinite_of_ofBytes? decoded
    · cases h

/-! ### Reading back -/

/-- The text of these detections reads back as they are, wherever a file has it.
A save that succeeds puts exactly this text on the disk, and where it left a
regular file at the path, the detections are read from there. -/
structure ReadsBack (detections : List Detection) : Prop where
  text : ∀ disk path, disk.read path = .ok (Utf8.encode (text detections)) →
    load disk path = .ok detections
  written : ∀ before path saved, save before path detections = (.ok (), saved) →
    ∃ place, saved.node? place = some (.file { bytes := Utf8.encode (Results.text detections) })
  saved : ∀ before path saved, save before path detections = (.ok (), saved) →
    saved.isFile path → load saved path = .ok detections

theorem readsBack_of_isFinite (finite : detections.all Detection.isFinite) :
    ReadsBack detections where
  text disk path holds := by
    rw [load_of_read holds, ofBytes?_text, if_pos finite]
    rfl
  written before path saved saves := by
    obtain ⟨_, destination, -, -, -, replaced⟩ := Disk.replaceFile_eq_ok (replaceFile_of_save saves)
    exact ⟨destination.place, replaced.present⟩
  saved before path saved saves there := by
    obtain ⟨-, loaded⟩ | ⟨lost, -⟩ := load_of_save saves
    · rw [loaded, if_pos finite]
    · rw [there] at lost
      cases lost

/-- A number that is not finite is not read back, from no file. -/
theorem isFinite_of_readsBack (h : ReadsBack detections) : detections.all Detection.isFinite :=
  all_isFinite_of_load (h.text ((Disk.blank "work").put ["work", "results.json"]
    (.file { bytes := Utf8.encode (Results.text detections) })) ⟨"results.json"⟩ rfl)

/-- A list survives being written and read exactly if its numbers are finite,
whatever its length. Everything that was ever read from a file is such a list. -/
theorem readsBack_iff_and_of_load :
    (∀ detections : List Detection, ReadsBack detections ↔ detections.all Detection.isFinite) ∧
      ∀ disk path detections, load disk path = .ok detections → ReadsBack detections :=
  ⟨fun _ => ⟨isFinite_of_readsBack, readsBack_of_isFinite⟩,
    fun _ _ _ loaded => readsBack_of_isFinite (all_isFinite_of_load loaded)⟩

/-- A file with one detection, spelled in another way than it is written: the
least subnormal number, both zeros, the ends of the integer ranges. -/
def respelledText : String :=
  "[ \x7b\"score\" : -0.0, \"bbox\": [5E-324, -0, 0.0, 1e+2], \"note\": null,\n" ++
    "\"category_id\": 4294967295, \"image_id\": -9223372036854775808\x7d ]\n"

def respelledDisk : Disk :=
  (Disk.blank "work").put ["work", "given.json"]
    (.file { bytes := Utf8.encode respelledText.toList })

def respelled : Detection where
  imageId := Int64.minValue
  categoryId := 4294967295
  x := .ofBits 0x0000000000000001
  y := .ofBits 0x8000000000000000
  width := .ofBits 0x0000000000000000
  height := .ofBits 0x4059000000000000
  score := .ofBits 0x8000000000000000

/-- It is read, and saved and read again, from another file. -/
theorem readsBack_iff_and_of_load_respelled :
    load respelledDisk ⟨"given.json"⟩ = .ok [respelled] ∧
      load (save respelledDisk ⟨"results.json"⟩ [respelled]).2 ⟨"results.json"⟩ =
        .ok [respelled] := by
  have loads : load respelledDisk ⟨"given.json"⟩ = .ok [respelled] := by decide +kernel
  have saves : (save respelledDisk ⟨"results.json"⟩ [respelled]).1 = .ok () := by decide +kernel
  have there : (save respelledDisk ⟨"results.json"⟩ [respelled]).2.isFile ⟨"results.json"⟩ := by
    decide +kernel
  exact ⟨loads, (readsBack_iff_and_of_load.2 _ _ _ loads).saved respelledDisk ⟨"results.json"⟩ _
    (Prod.ext saves rfl) there⟩

end Results

end DetectionMerge
