import DetectionMerge.Folder.Results
import DetectionMerge.Proofs.Json.Spelling
import DetectionMerge.Proofs.Text.Utf8

/-! The text of a results file. It reads back as the detections that were written
exactly if all their numbers are finite; a number that is not is written as
`null`, which no field takes. -/

namespace DetectionMerge

/-- Whether the box and the score have no infinite number and no NaN. -/
def Detection.isFinite (d : Detection) : Bool :=
  d.x.isFinite && d.y.isFinite && d.width.isFinite && d.height.isFinite && d.score.isFinite

open Json (Document)

/-- Items decode together exactly if each of them is good. -/
theorem mapM_of_spellsItems {α : Type} {f : Json → Option α} {document : α → Document}
    {good : α → Bool} (one : ∀ a v, (document a).Spells v → f v = if good a then some a else none)
    {as : List α} {values : List Json} (h : Document.SpellsItems (as.map document) values) :
    values.mapM f = if as.all good then some as else none := by
  rw [Json.mapM_eq_of_spellsItems one h]
  clear h
  induction as with
  | nil => rfl
  | cons a as ih =>
    rw [List.mapM_cons, ih, List.all_cons]
    cases good a <;> cases as.all good <;> rfl

namespace Detection

/-- A written detection is decoded exactly if its numbers are finite. -/
theorem ofJson?_of_spells (d : Detection) (v : Json) (h : d.document.Spells v) :
    ofJson? v = if d.isFinite then some d else none := by
  obtain ⟨fields, rfl, h⟩ := h
  have decoded : Json.fields? keys (.object fields) = some (fields.map (·.2)) :=
    Json.fields?_of_spells (by change keys.Nodup; decide) h
  obtain ⟨_, imageId, _, rfl, -, imageIdSpells, _, categoryId, _, rfl, -, categoryIdSpells,
    _, box, _, rfl, -, ⟨_, rfl, x, _, rfl, xSpells, y, _, rfl, ySpells, width, _, rfl, widthSpells,
      height, _, rfl, heightSpells, rfl⟩, _, score, _, rfl, -, scoreSpells, rfl⟩ := h
  simp only [ofJson?, decoded, List.map_cons, List.map_nil, Json.items?, Option.bind_eq_bind,
    Option.bind_some, Json.int64?_of_spells imageIdSpells, Json.uint32?_of_spells categoryIdSpells,
    Json.real?_of_spells xSpells, Json.real?_of_spells ySpells, Json.real?_of_spells widthSpells,
    Json.real?_of_spells heightSpells, Json.real?_of_spells scoreSpells, isFinite, Bool.and_eq_true]
  by_cases hx : d.x.isFinite
  case neg => simp [hx]
  by_cases hy : d.y.isFinite
  case neg => simp [hx, hy]
  by_cases hwidth : d.width.isFinite
  case neg => simp [hx, hy, hwidth]
  by_cases hheight : d.height.isFinite
  case neg => simp [hx, hy, hwidth, hheight]
  by_cases hscore : d.score.isFinite
  case neg => simp [hx, hy, hwidth, hheight, hscore]
  simp [hx, hy, hwidth, hheight, hscore]

end Detection

namespace Results

open Text (Utf8.encode Utf8.symbols_encode)

/-- A results file reads back exactly if all its numbers are finite. -/
theorem ofBytes?_text (detections : List Detection) :
    ofBytes? (Utf8.encode (text detections)) =
      if detections.all Detection.isFinite then some detections else none := by
  obtain ⟨v, ⟨values, rfl, spells⟩, reads⟩ :=
    Json.exists_ofText?_compact (.list (detections.map Detection.document))
  have value : Json.ofBytes? (Utf8.encode (text detections)) = some (.array values) := by
    rw [Json.ofBytes?, Utf8.symbols_encode]
    exact reads
  rw [ofBytes?, value]
  exact mapM_of_spellsItems Detection.ofJson?_of_spells spells

end Results

end DetectionMerge
