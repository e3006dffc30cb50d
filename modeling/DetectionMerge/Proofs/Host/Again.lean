import DetectionMerge.Proofs.Host.Replace

/-! A replacement made a second time. If the path leads to the new file, then all the
directories on the way are there, and the file is moved to where it already is. The
disk is then exactly what it was. -/

namespace DetectionMerge

namespace Disk

open Traversal (bind_eq_ok_iff)

variable {disk saved : Disk} {place p : Place} {links : ℕ} {names names' above rest : List SystemText}
  {last : SystemText}

/-! ### Parts of a way -/

/-- A way to something that is there comes through directories. -/
theorem Leads.exists_directory (h : Leads disk true links place names (.existing p))
    (parts : names = above ++ last :: rest) :
    ∃ folder, Leads disk true links place above (.existing folder) ∧
      disk.node? folder = some .directory := by
  generalize same : Destination.existing p = destination at h
  induction h generalizing above with
  | here => simp at parts
  | missing => cases same
  | itself _ _ _ stays => cases stays
  | @move _ place _ _ _ _ directory moves _ ih =>
    cases above with
    | nil => exact ⟨place, .here, directory⟩
    | cons first above =>
      obtain ⟨rfl, tail⟩ := List.cons.inj parts
      obtain ⟨folder, leads, there⟩ := ih tail same
      exact ⟨folder, .move directory moves leads, there⟩
  | @enter _ place _ _ _ _ directory plain found noLink _ ih =>
    cases above with
    | nil => exact ⟨place, .here, directory⟩
    | cons first above =>
      obtain ⟨rfl, tail⟩ := List.cons.inj parts
      obtain ⟨folder, leads, there⟩ := ih tail same
      exact ⟨folder, .enter directory plain found noLink leads, there⟩
  | @link _ place _ _ target _ directory plain found goesOn _ ih =>
    cases above with
    | nil => exact ⟨place, .here, directory⟩
    | cons first above =>
      obtain ⟨rfl, rfl⟩ := List.cons.inj parts
      obtain ⟨folder, leads, there⟩ := ih (List.append_assoc target.route.names above _).symm same
      exact ⟨folder, .link directory plain found (by simp) leads, there⟩

/-- A way that leads somewhere also does so if a last link is not followed. -/
theorem Leads.exists_unfollowed (h : Leads disk true links place names (.existing p)) :
    ∃ q, Leads disk false links place names (.existing q) := by
  generalize same : Destination.existing p = destination at h
  induction h with
  | here => exact ⟨_, .here⟩
  | missing => cases same
  | itself _ _ _ stays => cases stays
  | move directory moves _ ih =>
    obtain ⟨q, leads⟩ := ih same
    exact ⟨q, .move directory moves leads⟩
  | enter directory plain found noLink _ ih =>
    obtain ⟨q, leads⟩ := ih same
    exact ⟨q, .enter directory plain found noLink leads⟩
  | @link _ _ _ rest _ _ directory plain found _ _ ih =>
    cases rest with
    | nil => exact ⟨_, .itself directory plain found rfl⟩
    | cons =>
      obtain ⟨q, leads⟩ := ih same
      exact ⟨q, .link directory plain found (by simp) leads⟩

/-- The second list is the first one without some of the names that lead nowhere else. -/
inductive Omits : List SystemText → List SystemText → Prop
  | nil : Omits [] []
  | keep {names names' : List SystemText} (name : SystemText) (h : Omits names names') :
    Omits (name :: names) (name :: names')
  | drop {names names' : List SystemText} {name : SystemText} (stays : name = "" ∨ name = ".")
    (h : Omits names names') : Omits (name :: names) names'

theorem Omits.append (above : List SystemText) (h : Omits names names') :
    Omits (above ++ names) (above ++ names') := by
  induction above with
  | nil => exact h
  | cons name above ih => exact .keep name ih

theorem omits_filter (names : List SystemText) :
    Omits names (names.filter fun name => name ≠ "" ∧ name ≠ ".") := by
  induction names with
  | nil => exact .nil
  | cons name names ih =>
    by_cases plain : name ≠ "" ∧ name ≠ "."
    · rw [List.filter_cons_of_pos (by simpa using plain)]
      exact .keep name ih
    · rw [List.filter_cons_of_neg (by simpa using plain)]
      exact .drop (by tauto) ih

/-- Without these names a way leads to the same place. -/
theorem Leads.omits (h : Leads disk true links place names (.existing p))
    (omitted : Omits names names') : Leads disk true links place names' (.existing p) := by
  generalize same : Destination.existing p = destination at h ⊢
  induction h generalizing names' with
  | here =>
    cases omitted
    exact .here
  | missing => cases same
  | itself _ _ _ stays => cases stays
  | move directory moves _ ih =>
    cases omitted with
    | keep _ omitted => exact .move directory moves (ih omitted same)
    | drop stays omitted =>
      obtain ⟨-, rfl⟩ | ⟨goes, -⟩ := moves
      · exact ih omitted same
      · exact absurd stays goes
  | enter directory plain found noLink _ ih =>
    cases omitted with
    | keep _ omitted => exact .enter directory plain found noLink (ih omitted same)
    | drop stays => exact absurd stays plain.1
  | link directory plain found _ _ ih =>
    cases omitted with
    | keep _ omitted => exact .link directory plain found (by simp) (ih (omitted.append _) same)
    | drop stays => exact absurd stays plain.1

/-! ### The directory of the file -/

theorem exists_parent {path : Path} (leads : disk.locate true path = .ok (.existing p))
    (named : path.fileName?.isSome) :
    ∃ folder, disk.destination true path.parent = .ok (.existing folder) ∧
      disk.node? folder = some .directory := by
  obtain ⟨name, plain⟩ := Option.isSome_iff_exists.1 named
  rw [Path.fileName?, Option.filter_eq_some_iff, decide_eq_true_iff] at plain
  obtain ⟨final, nonempty, noDot, -⟩ := plain
  have kept : name ∈ path.route.names.filter fun (name : SystemText) => name ≠ "" ∧ name ≠ "." :=
    List.mem_filter.2 ⟨List.mem_of_getLast? final, by simp [nonempty, noDot]⟩
  have way := (walk_eq_ok_iff.1 (locate_eq_ok leads).1).omits (omits_filter path.route.names)
  obtain ⟨folder, leads, directory⟩ :=
    way.exists_directory (List.dropLast_append_getLast (List.ne_nil_of_mem kept)).symm
  exact ⟨folder, walk_of_leads leads, directory⟩

theorem makeDirectories_of_isDirectory {absolute : Bool}
    (there : disk.isDirectory ⟨absolute, names.reverse⟩) :
    disk.makeDirectories absolute names = (.ok (), disk) := by
  cases names with
  | nil => rfl
  | cons name above =>
    have refused : disk.makeDirectory ⟨absolute, (name :: above).reverse⟩ = .error .alreadyExists := by
      unfold isDirectory at there
      split at there
      · next leads =>
        obtain ⟨q, leads⟩ := (walk_eq_ok_iff.1 leads).exists_unfollowed
        rw [makeDirectory, Disk.destination, walk_of_leads leads]
        rfl
      · cases there
    rw [makeDirectories, refused]
    simp only [there, if_true]

/-! ### The steps, one by one -/

theorem replaceFile_eq_ok_iff {target : Path} {bytes : List UInt8} :
    disk.replaceFile target bytes = (.ok (), saved) ↔
      ¬longestPath < target.folder.bytes.length ∧ ∃ made temporary opened,
        disk.makeDirectories target.parent.absolute target.parent.names.reverse = (.ok (), made) ∧
        made.makeTemporary target.parent = .ok (temporary, opened) ∧
        opened.fillAndMove temporary target bytes = .ok saved := by
  rw [replaceFile]
  constructor
  · intro h
    by_cases long : longestPath < target.folder.bytes.length
    · simp [long] at h
    rw [if_neg long] at h
    refine ⟨long, ?_⟩
    split at h
    · cases h
    next made making =>
    split at h
    · cases h
    next temporary opened opening =>
    split at h
    · next moved moving =>
      cases h
      exact ⟨made, temporary, opened, making, opening, moving⟩
    · cases h
  · rintro ⟨long, made, temporary, opened, making, opening, moving⟩
    simp only [if_neg long, making, opening, moving]

/-- The operations that are part of every replacement. -/
structure Allows (disk : Disk) : Prop where
  makeTemporary : disk.allow .makeTemporary = .ok ()
  write : disk.allow .write = .ok ()
  flush : disk.allow .flush = .ok ()
  rename : disk.allow .rename = .ok ()

/-- After the directories have been made, the file is put at the path's place, and
nothing else is done. -/
theorem put_of_replaceFile {target : Path} {bytes : List UInt8}
    (h : disk.replaceFile target bytes = (.ok (), saved)) :
    ∃ made destination,
      disk.makeDirectories target.parent.absolute target.parent.names.reverse = (.ok (), made) ∧
      made.locate false target = .ok destination ∧ target.fileName?.isSome ∧
      made.node? destination.place ≠ some .directory ∧
      saved = made.put destination.place (.file { bytes := bytes }) ∧ saved.Allows := by
  obtain ⟨-, made, temporary, opened, making, opening, moving⟩ := replaceFile_eq_ok_iff.1 h
  obtain ⟨opens, fresh, rfl⟩ := makeTemporary_eq_ok opening
  obtain ⟨⟨⟩, writes, moving⟩ := bind_eq_ok_iff.1 moving
  obtain ⟨⟨⟩, flushes, moving⟩ := bind_eq_ok_iff.1 moving
  rw [put_put] at moving
  obtain ⟨destination, leads, named, noDirectory, renames, rfl⟩ := put_of_rename fresh moving
  exact ⟨made, destination, making, leads, named, noDirectory, rfl, opens, writes, flushes, renames⟩

/-! ### The second time -/

theorem makeTemporary_of_directory {route : Route} {folder : Place}
    (leads : disk.destination true route = .ok (.existing folder))
    (directory : disk.node? folder = some .directory) (allowed : disk.allow .makeTemporary = .ok ()) :
    disk.makeTemporary route = .ok (folder ++ [disk.freshName folder],
      disk.put (folder ++ [disk.freshName folder]) (.file { bytes := [] })) := by
  simp only [makeTemporary, leads, allowed, directory, bind, Except.bind, pure, Except.pure]
  rfl

theorem rename_onto_file {source : Place} {target : Path} {node : Node} {f : File}
    (leads : disk.locate false target = .ok (.existing place)) (named : target.fileName?.isSome)
    (present : disk.node? source = some node) (there : disk.node? place = some (.file f))
    (allowed : disk.allow .rename = .ok ()) :
    disk.rename source target = .ok ((disk.erase source).put place node) := by
  have named : target.fileName?.isNone = false := by simpa [Option.isSome_iff_ne_none] using named
  simp only [rename, leads, named, present, there, allowed, bind, Except.bind, pure, Except.pure]
  rfl

theorem Grows.locate {before after : Disk} {follow : Bool} {path : Path} (h : Grows before after)
    (leads : before.locate follow path = .ok (.existing p)) :
    after.locate follow path = .ok (.existing p) := by
  obtain ⟨leads, located⟩ := locate_eq_ok leads
  rw [located after follow]
  exact h.destination leads

/-- A path that leads to a file leads to the new one. -/
theorem Replaced.locate_of_isFile {before after : Disk} {target : Path} {destination : Destination}
    {f : File} (replaced : Replaced before after destination.place f)
    (leads : before.locate false target = .ok destination) (named : target.fileName?.isSome)
    (there : after.isFile target) (follow : Bool) :
    after.locate follow target = .ok (.existing destination.place) := by
  have followed : after.locate true target = .ok (.existing destination.place) := by
    obtain ⟨g, there⟩ := isFile_iff.1 there
    obtain ⟨p, leads', -⟩ := stat_eq_ok_iff.1 there
    obtain there | ⟨refused, -⟩ := replaced.locate leads named true
    · exact there
    · rw [refused] at leads'
      cases leads'
  obtain there | ⟨refused, -⟩ := replaced.locate leads named follow
  · exact there
  -- A link on the way would stop the path that is followed to the end as well.
  obtain ⟨way, located⟩ := locate_eq_ok followed
  cases follow with
  | true => rw [refused] at followed; cases followed
  | false =>
    obtain ⟨q, way⟩ := (walk_eq_ok_iff.1 way).exists_unfollowed
    rw [located after false, Disk.destination, walk_of_leads way] at refused
    cases refused

/-- Where the path leads to the file that a replacement has made, making it again
changes nothing. -/
theorem replaceFile_again {target : Path} {bytes : List UInt8}
    (h : disk.replaceFile target bytes = (.ok (), saved)) (there : saved.isFile target) :
    saved.replaceFile target bytes = (.ok (), saved) := by
  obtain ⟨long, -⟩ := replaceFile_eq_ok_iff.1 h
  obtain ⟨made, destination, -, leads, named, noDirectory, saves, allows⟩ := put_of_replaceFile h
  have replaced : Replaced made saved destination.place { bytes := bytes } :=
    saves ▸ replaced_put noDirectory
  have found := replaced.locate_of_isFile leads named there
  obtain ⟨folder, above, directory⟩ := exists_parent (found true) named
  have opens := makeTemporary_of_directory above directory allows.makeTemporary
  have fresh := saved.node?_freshName folder
  generalize folder ++ [saved.freshName folder] = temporary at opens fresh
  have inside : temporary ≠ [] := ne_nil_of_node?_ne (fresh.trans_ne (by simp))
  have grows : Grows saved (saved.put temporary (.file { bytes := bytes })) := grows_put fresh
  have moves : (saved.put temporary (.file { bytes := bytes })).rename temporary target = .ok saved := by
    rw [rename_onto_file (grows.locate (found false)) named
      (by rw [node?_put, if_pos ⟨rfl, inside⟩]) (grows.kept replaced.present) allows.rename,
      erase_put fresh, saves, put_put]
  refine replaceFile_eq_ok_iff.2 ⟨long, saved, temporary, _, ?_, opens, ?_⟩
  · refine makeDirectories_of_isDirectory ?_
    rw [List.reverse_reverse]
    simp [isDirectory, above, directory]
  · refine bind_eq_ok_iff.2 ⟨(), allows.write, bind_eq_ok_iff.2 ⟨(), allows.flush, ?_⟩⟩
    rw [put_put]
    exact moves

end Disk

end DetectionMerge
