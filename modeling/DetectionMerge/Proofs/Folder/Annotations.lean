import DetectionMerge.Folder.Annotations
import DetectionMerge.Proofs.Json.Undecodable
import DetectionMerge.Proofs.Text.LossyDecoding
import DetectionMerge.Proofs.Text.System

/-! Reading an annotation file as bytes and as text. Bytes that are valid are read as the text
that they encode. Others are read only if what is invalid in them is part of a text that no
image has, so that it does not matter which characters stand in its place. -/

namespace DetectionMerge

open Json (IsPlain fillIn)
open Text.Utf8 (decode? decodeLossy symbols)

/-! ### Bytes and texts -/

namespace Text.Utf8

/-- The replacement character in the place of each part that is no UTF-8. -/
theorem decodeLossy_eq_fillIn (bytes : List UInt8) :
    decodeLossy bytes = fillIn ['\uFFFD'] (symbols bytes) := by
  rw [decodeLossy, fillIn, List.map_eq_flatMap]
  congr 1
  funext symbol
  cases symbol <;> rfl

end Text.Utf8

/-! ### Images -/

namespace ImageRecord

variable {fill : List Char} {v : Json}

theorem ofJson?_mend {image : ImageRecord} (h : ofJson? v = some image) :
    ofJson? (v.mend fill) = some image := by
  obtain ⟨values, fields, made⟩ := Option.bind_eq_some_iff.1 h
  match values, made with
  | [fileName, id], made =>
    obtain ⟨name, reads, made⟩ := Option.bind_eq_some_iff.1 made
    rw [ofJson?, Json.fields?_mend fields]
    simp only [List.map_cons, List.map_nil, Option.bind_eq_bind, Option.bind_some,
      Json.text?_mend reads, Json.int64?_mend]
    exact made

theorem listOfJson?_mend {images : List ImageRecord} (h : listOfJson? v = some images) :
    listOfJson? (v.mend fill) = some images := by
  obtain ⟨values, fields, made⟩ := Option.bind_eq_some_iff.1 h
  match values, made with
  | [list], made =>
    obtain ⟨items, array, made⟩ := Option.bind_eq_some_iff.1 made
    rw [listOfJson?, Json.fields?_mend fields]
    simp only [List.map_cons, List.map_nil, Option.bind_eq_bind, Option.bind_some,
      Json.items?_mend, array, Option.map_some]
    rw [Traversal.mapM_eq_some_iff] at made ⊢
    rw [List.forall₂_map_left_iff]
    exact made.imp fun item image => ofJson?_mend

end ImageRecord

/-! ### Annotation files -/

namespace Annotations

variable {disk : Disk} {path : Path} {bytes : List UInt8}

theorem load_of_read (reads : disk.read path = .ok bytes) : load disk path = ofBytes path bytes := by
  obtain ⟨node, opened, read⟩ := Traversal.bind_eq_ok_iff.1 reads
  simp only [load, opened, read]

theorem ofBytes_of_decode? {text : List Char} (valid : decode? bytes = some text) :
    ofBytes path bytes = ofText path text := by
  rw [ofBytes, ofText, Json.ofBytes?, Json.ofText?, Text.Utf8.symbols_of_decode? valid]

theorem ofText_fillIn {fill : List Char} (plain : ∀ c ∈ fill, IsPlain c) {images : List ImageRecord}
    (loads : ofBytes path bytes = .ok images) :
    ofText path (fillIn fill (symbols bytes)) = .ok images := by
  cases decodes : (Json.ofBytes? bytes).bind ImageRecord.listOfJson? with
  | none =>
    rw [ofBytes, decodes] at loads
    cases loads
  | some found =>
    rw [ofBytes, decodes] at loads
    obtain rfl : found = images := Except.ok.inj loads
    obtain ⟨v, spells, lists⟩ := Option.bind_eq_some_iff.1 decodes
    rw [ofText, Json.ofText?_fillIn plain spells, Option.bind_some,
      ImageRecord.listOfJson?_mend lists]
    rfl

/-- The bytes of a file that is valid are read as their text, and either has images or is
malformed. If a file has images at all, they are those of the text with U+FFFD in the place
of each part that is no UTF-8, and with any other plain characters there. -/
theorem load_of_valid_or_filled (reads : disk.read path = .ok bytes) :
    (∀ text, decode? bytes = some text → load disk path = ofText path text ∧
      ((∃ images, load disk path = .ok images) ∨
        load disk path = .error (.malformed path))) ∧
    ∀ images, load disk path = .ok images →
      ofText path (decodeLossy bytes) = .ok images ∧
        ∀ fill, (∀ c ∈ fill, IsPlain c) → ofText path (fillIn fill (symbols bytes)) = .ok images := by
  rw [load_of_read reads]
  refine ⟨fun text valid => ⟨ofBytes_of_decode? valid, ?_⟩, fun images loads => ⟨?_, ?_⟩⟩
  · rw [ofBytes]
    cases (Json.ofBytes? bytes).bind ImageRecord.listOfJson? with
    | none => exact .inr rfl
    | some images => exact .inl ⟨images, rfl⟩
  · rw [Text.Utf8.decodeLossy_eq_fillIn]
    refine ofText_fillIn (fun c mem => ?_) loads
    rw [List.mem_singleton.1 mem]
    exact ⟨by decide, by decide, by decide⟩
  · exact fun fill plain => ofText_fillIn plain loads

/-- An annotation file with the name of a license. -/
def licensedText (name : List Char) : List Char :=
  "\x7b\"license\":\"".toList ++ name ++
    "\",\"images\":[\x7b\"file_name\":\"a.jpg\",\"id\":7\x7d]\x7d".toList

/-- The same file with a byte of another encoding in the name. -/
def latinBytes : List UInt8 :=
  Text.Utf8.encode "\x7b\"license\":\"Caf".toList ++ 0xE9 ::
    Text.Utf8.encode "\",\"images\":[\x7b\"file_name\":\"a.jpg\",\"id\":7\x7d]\x7d".toList

def latinDisk : Disk :=
  ((Disk.blank "work").put ["work", "latin.json"] (.file { bytes := latinBytes })).put
    ["work", "gt.json"] (.file { bytes := Text.Utf8.encode (licensedText ['C', 'a', 'f', 'é']) })

theorem load_of_latinDisk :
    load latinDisk ⟨"gt.json"⟩ = ofText ⟨"gt.json"⟩ (licensedText ['C', 'a', 'f', 'é']) ∧
      decode? latinBytes = none ∧ load latinDisk ⟨"latin.json"⟩ = .ok [⟨"a.jpg", 7⟩] ∧
      ofText ⟨"latin.json"⟩ (licensedText ['C', 'a', 'f', '\uFFFD']) = .ok [⟨"a.jpg", 7⟩] := by
  have loads : load latinDisk ⟨"latin.json"⟩ = .ok [⟨"a.jpg", 7⟩] := by decide +kernel
  have reads : latinDisk.read ⟨"latin.json"⟩ = .ok latinBytes := by decide +kernel
  have valid : latinDisk.read ⟨"gt.json"⟩ =
      .ok (Text.Utf8.encode (licensedText ['C', 'a', 'f', 'é'])) := by decide +kernel
  have decoded : decodeLossy latinBytes = licensedText ['C', 'a', 'f', '\uFFFD'] := by
    decide +kernel
  refine ⟨?_, by decide +kernel, loads, ?_⟩
  · exact ((load_of_valid_or_filled valid).1 _ (Text.Utf8.decode?_encode _)).1
  · rw [← decoded]
    exact ((load_of_valid_or_filled reads).2 _ loads).1

end Annotations

end DetectionMerge
