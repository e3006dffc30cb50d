import DetectionMerge.Proofs.Host.Again

/-! What a replacement leaves as it was. A way that leads to anything but the new file
leads where it led before. A way can be cut off only where it went on through a link
that the file took the place of. -/

namespace DetectionMerge

namespace Disk

open Traversal (bind_eq_ok_iff)

variable {disk before made after saved : Disk} {place folder p : Place} {node : Node} {f : File}
  {route : Route} {path : Path} {follow : Bool} {name : SystemText}

/-! ### Ways that do not lead to the file -/

theorem Replaced.was (h : Replaced before after place f) (there : after.node? p = some node)
    (noFile : ∀ g, node ≠ .file g) : before.node? p = some node := by
  rw [h.nodes] at there
  split_ifs at there
  · exact absurd (Option.some.inj there).symm (noFile f)
  · exact there

/-- A way to anything but the file led there without the file too. -/
theorem Replaced.leads_before (h : Replaced before after place f) {links : ℕ} {start : Place}
    {names : List SystemText} (leads : Leads after follow links start names (.existing p))
    (elsewhere : p ≠ place) : Leads before follow links start names (.existing p) := by
  refine leads.transfer (fun there => h.was there (fun _ => Node.noConfusion))
    (fun there => h.was there (fun _ => Node.noConfusion)) fun found noLink => ?_
  exact ⟨_, (h.other elsewhere).symm.trans found, noLink⟩

/-- Unless it took the place of a link, the file is in nobody's way. -/
theorem Replaced.leads_after (h : Replaced before after place f)
    (noLink : ∀ target, before.node? place ≠ some (.link target)) {links : ℕ} {start : Place}
    {names : List SystemText} (leads : Leads before follow links start names (.existing p)) :
    Leads after follow links start names (.existing p) := by
  refine leads.transfer (fun there => ?_) (fun there => ?_) fun found noLink' => ?_
  · exact (h.other fun here => h.noDirectory (here ▸ there)).trans there
  · exact (h.other fun here => noLink _ (here ▸ there)).trans there
  · by_cases here : p = place
    · exact ⟨_, here ▸ h.present, fun _ => Node.noConfusion⟩
    · exact ⟨_, (h.other here).trans found, noLink'⟩

/-! ### Paths -/

theorem Replaced.locate_before (h : Replaced before after place f)
    (leads : after.locate follow path = .ok (.existing p)) (elsewhere : p ≠ place) :
    before.locate follow path = .ok (.existing p) := by
  obtain ⟨leads, located⟩ := locate_eq_ok leads
  rw [Disk.destination, walk_eq_ok_iff, h.current] at leads
  rw [located before follow]
  exact walk_of_leads (h.leads_before leads elsewhere)

theorem Replaced.locate_after (h : Replaced before after place f)
    (noLink : ∀ target, before.node? place ≠ some (.link target))
    (leads : before.locate follow path = .ok (.existing p)) :
    after.locate follow path = .ok (.existing p) := by
  obtain ⟨leads, located⟩ := locate_eq_ok leads
  rw [Disk.destination, walk_eq_ok_iff, ← h.current] at leads
  rw [located after follow]
  exact walk_of_leads (h.leads_after noLink leads)

section Made

variable (ways : MakesWay before made route) (replaced : Replaced made after place f)

include ways replaced

/-- A path that led somewhere and now leads to anything but the file leads where it led. -/
theorem locate_eq_of_elsewhere {q : Place} (led : before.locate follow path = .ok (.existing q))
    (leads : after.locate follow path = .ok (.existing p)) (elsewhere : p ≠ place) : p = q := by
  have there := ways.toGrows.locate led
  rw [replaced.locate_before leads elsewhere] at there
  cases there
  rfl

/-- What is at the end of such a path is what was there. -/
theorem stat_eq_of_elsewhere (led : before.stat path = .ok node)
    (leads : after.locate true path = .ok (.existing p)) (elsewhere : p ≠ place) :
    after.stat path = .ok node := by
  obtain ⟨q, led, found⟩ := stat_eq_ok_iff.1 led
  obtain rfl := locate_eq_of_elsewhere ways replaced led leads elsewhere
  exact stat_eq_ok_iff.2 ⟨p, leads, (replaced.other elsewhere).trans (ways.kept found)⟩

/-- A file that is a regular file before and afterwards, and not the new one, is the same. -/
theorem stat_eq_of_isFile (led : before.isFile path) (leads : after.isFile path)
    (elsewhere : after.locate true path ≠ .ok (.existing place)) :
    after.stat path = before.stat path := by
  obtain ⟨g, led⟩ := isFile_iff.1 led
  obtain ⟨h, leads⟩ := isFile_iff.1 leads
  obtain ⟨p, leads, -⟩ := stat_eq_ok_iff.1 leads
  rw [led]
  exact stat_eq_of_elsewhere ways replaced led leads fun here => elsewhere (here ▸ leads)

/-- Unless the file took the place of a link, every path leads where it led. -/
theorem locate_of_noLink (noLink : ∀ target, before.node? place ≠ some (.link target))
    (led : before.locate follow path = .ok (.existing p)) :
    after.locate follow path = .ok (.existing p) :=
  replaced.locate_after (fun target link => noLink target (ways.link link)) (ways.toGrows.locate led)

/-- Then also every path to a file still leads to a file. -/
theorem isFile_of_noLink (noLink : ∀ target, before.node? place ≠ some (.link target))
    (led : before.isFile path) : after.isFile path := by
  obtain ⟨g, led⟩ := isFile_iff.1 led
  obtain ⟨p, led, found⟩ := stat_eq_ok_iff.1 led
  have leads := locate_of_noLink ways replaced noLink led
  rw [isFile_iff]
  by_cases here : p = place
  · exact ⟨f, stat_eq_ok_iff.2 ⟨p, leads, here ▸ replaced.present⟩⟩
  · exact ⟨g, stat_eq_ok_iff.2 ⟨p, leads, (replaced.other here).trans (ways.kept found)⟩⟩

end Made

theorem stat_of_openNode (h : disk.openNode path = .ok node) : disk.stat path = .ok node := by
  obtain ⟨node', there, h⟩ := bind_eq_ok_iff.1 h
  rw [there]
  cases node' with
  | file f =>
    simp only at h
    split_ifs at h
    exact h
  | directory | link | emptyDevice => exact h

theorem read_of_stat_eq (same : after.stat path = before.stat path) :
    after.read path = before.read path := by
  rw [read, read, openNode, openNode, same]

/-! ### Names in a directory -/

theorem mem_namesIn_iff : name ∈ disk.namesIn place ↔ (disk.node? (place ++ [name])).isSome := by
  rw [node?, if_neg (by simp), Option.isSome_map, List.find?_isSome, namesIn, List.mem_filterMap]
  refine exists_congr fun entry => and_congr_right fun _ => ?_
  obtain ⟨q, node⟩ := entry
  simp only [decide_eq_true_eq]
  constructor
  · intro there
    split_ifs at there with inside
    rw [← inside]
    exact (List.dropLast_append_getLast? name there).symm ▸ rfl
  · rintro rfl
    simp

/-- A place that is taken again is not listed twice. -/
theorem nodup_namesIn_put (once : (disk.namesIn folder).Nodup) :
    ((disk.put place node).namesIn folder).Nodup := by
  have parts : (disk.put place node).namesIn folder =
      (disk.erase place).namesIn folder ++ ([(place, node)].filterMap fun entry =>
        if entry.1.dropLast = folder then entry.1.getLast? else none) := by
    rw [namesIn, put, List.filterMap_append]
    rfl
  have others : ((disk.erase place).namesIn folder).Nodup :=
    once.sublist (List.filter_sublist.filterMap _)
  rw [parts]
  refine others.append ?_ fun name there new => ?_
  · rw [List.filterMap_cons]
    split <;> simp
  · rw [mem_namesIn_iff, node?_erase] at there
    simp only [List.filterMap_cons, List.filterMap_nil] at new
    split_ifs at new with inside
    · cases final : place.getLast? with
      | none => simp [final] at new
      | some last =>
        obtain rfl : name = last := by simpa [final] using new
        have nonempty : place ≠ [] := by
          rintro rfl
          cases final
        rw [← inside, List.dropLast_append_getLast? name final, if_pos ⟨rfl, nonempty⟩] at there
        cases there
    · simp at new

theorem list_eq_ok_iff {names : List SystemText} : disk.list path = .ok names ↔
    ∃ p, disk.locate true path = .ok (.existing p) ∧ disk.node? p = some .directory ∧
      names = disk.namesIn p := by
  rw [list, bind_eq_ok_iff]
  constructor
  · rintro ⟨destination | _, leads, lists⟩
    · simp only at lists
      split_ifs at lists with directory
      exact ⟨_, leads, directory, (Except.ok.inj lists).symm⟩
    · cases lists
  · rintro ⟨p, leads, directory, rfl⟩
    exact ⟨_, leads, if_pos directory⟩

theorem nodup_namesIn_of_replaceFile {bytes : List UInt8}
    (h : disk.replaceFile path bytes = (.ok (), saved)) (once : (disk.namesIn folder).Nodup) :
    (saved.namesIn folder).Nodup := by
  obtain ⟨made, destination, making, -, -, -, rfl, -⟩ := put_of_replaceFile h
  have kept := makeDirectories_keeps (P := fun made => (made.namesIn folder).Nodup)
    path.parent.absolute path.parent.names.reverse (fun _ _ => nodup_namesIn_put) once
  rw [making] at kept
  exact nodup_namesIn_put kept

section Made

variable (ways : MakesWay before made route) (replaced : Replaced made after place f)
  {names names' : List SystemText}

include ways replaced

/-- A folder that can be listed before and afterwards is the same one. -/
theorem exists_namesIn_of_list (listed : before.list path = .ok names)
    (lists : after.list path = .ok names') :
    ∃ p, names = before.namesIn p ∧ names' = after.namesIn p := by
  obtain ⟨q, led, -, rfl⟩ := list_eq_ok_iff.1 listed
  obtain ⟨p, leads, directory, rfl⟩ := list_eq_ok_iff.1 lists
  have elsewhere : p ≠ place := by
    rintro rfl
    rw [replaced.present] at directory
    cases directory
  obtain rfl := locate_eq_of_elsewhere ways replaced led leads elsewhere
  exact ⟨p, rfl, rfl⟩

/-- Unless the file took the place of a link, a folder can still be listed, and no name
is gone. -/
theorem exists_list_of_noLink (noLink : ∀ target, before.node? place ≠ some (.link target))
    (listed : before.list path = .ok names) :
    ∃ names', after.list path = .ok names' ∧ names ⊆ names' := by
  obtain ⟨p, led, directory, rfl⟩ := list_eq_ok_iff.1 listed
  have there : made.node? p = some .directory := ways.kept directory
  have elsewhere : p ≠ place := fun here => replaced.noDirectory (here ▸ there)
  refine ⟨after.namesIn p, list_eq_ok_iff.2 ⟨p, locate_of_noLink ways replaced noLink led,
    (replaced.other elsewhere).trans there, rfl⟩, fun name inside => ?_⟩
  rw [mem_namesIn_iff] at inside ⊢
  obtain ⟨node, found⟩ := Option.isSome_iff_exists.1 inside
  by_cases here : p ++ [name] = place
  · rw [here, replaced.present]
    rfl
  · rw [replaced.other here, ways.kept found]
    rfl

end Made

end Disk

end DetectionMerge
