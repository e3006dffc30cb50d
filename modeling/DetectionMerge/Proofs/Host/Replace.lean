import DetectionMerge.Proofs.Host.Directories

/-! Replacing a file in one step. Whichever step fails, nothing but new directories
on the way is left of it. When the replacement succeeds, the new file is in the
place that the path named, and the path leads to it, unless it passes through the
symbolic link that the file took the place of: then it runs into a file where it
needs a directory. -/

namespace DetectionMerge

namespace Disk

open Traversal (bind_eq_ok_iff)

variable {disk before after saved : Disk} {place p : Place} {node : Node} {f : File}

/-! ### A file in place of another node -/

/-- One disk is another with a file where no directory was. -/
structure Replaced (before after : Disk) (place : Place) (f : File) : Prop where
  nodes : ∀ p, after.node? p = if p = place then some (.file f) else before.node? p
  noDirectory : before.node? place ≠ some .directory
  current : after.current = before.current

theorem Replaced.present (h : Replaced before after place f) :
    after.node? place = some (.file f) := by
  rw [h.nodes, if_pos rfl]

theorem replaced_put (noDirectory : disk.node? place ≠ some .directory) :
    Replaced disk (disk.put place (.file f)) place f := by
  refine ⟨fun p => ?_, noDirectory, rfl⟩
  by_cases here : p = place
  · rw [here, node?_put, if_pos ⟨rfl, ne_nil_of_node?_ne noDirectory⟩, if_pos rfl]
  · rw [node?_put, if_neg fun same => here same.1, if_neg here]

theorem Replaced.other (h : Replaced before after place f) (elsewhere : p ≠ place) :
    after.node? p = before.node? p := by
  rw [h.nodes, if_neg elsewhere]

/-- The path reaches the file, or it stops at it because it was a link. -/
def Reaches (before : Disk) (place : Place) (result : Except Fault Destination) : Prop :=
  result = .ok (.existing place) ∨
    result = .error .notDirectory ∧ ∃ target, before.node? place = some (.link target)

/-- The last name is neither empty nor missing. -/
def EndsInName (names : List SystemText) : Prop := ∃ name, names.getLast? = some name ∧ name ≠ ""

theorem EndsInName.tail {name : SystemText} {rest : List SystemText} (h : EndsInName (name :: rest))
    (more : rest ≠ []) : EndsInName rest := by
  obtain ⟨last, hlast, named⟩ := h
  rw [List.getLast?_cons_of_ne_nil more] at hlast
  exact ⟨last, hlast, named⟩

theorem EndsInName.append {rest : List SystemText} (h : EndsInName rest) (names : List SystemText) :
    EndsInName (names ++ rest) := by
  obtain ⟨last, hlast, named⟩ := h
  exact ⟨last, by rw [List.getLast?_append, hlast, Option.some_or], named⟩

theorem EndsInName.not_all_empty {rest : List SystemText} (h : EndsInName rest) :
    rest.all (· = "") = false := by
  obtain ⟨last, hlast, named⟩ := h
  rw [List.all_eq_false]
  exact ⟨last, List.mem_of_getLast? hlast, by simpa using named⟩

/-- A way that led to the place without following a link there leads to the file,
unless it went on through the link. -/
theorem Replaced.walk (h : Replaced before after place f) {links : ℕ} {start : Place}
    {names : List SystemText} {destination : Destination} (follow : Bool)
    (ends : names ≠ [] → EndsInName names)
    (leads : Leads before false links start names destination) (here : destination.place = place) :
    Reaches before place (after.walk follow links start names) := by
  -- The file itself, with nothing behind it.
  have arrives {folder : Place} {name : SystemText} (same : folder ++ [name] = place)
      (directory : after.node? folder = some .directory) (plain : IsPlain name) (links : ℕ) :
      after.walk follow links folder [name] = .ok (.existing place) := by
    rw [walk_enter directory plain (same ▸ h.present) (fun _ => Node.noConfusion), walk_nil, same]
  have directory {folder : Place} (was : before.node? folder = some .directory) :
      after.node? folder = some .directory :=
    (h.other fun same => h.noDirectory (same ▸ was)).trans was
  induction leads with
  | here =>
    obtain rfl : _ = place := here
    exact .inl walk_nil
  | move folder moves _ ih =>
    rw [walk_move (directory folder) moves]
    exact ih (ends (List.cons_ne_nil _ _)).tail here
  | @missing _ _ name rest folder plain absent last =>
    obtain rfl : rest = [] := by
      by_contra more
      simp [((ends (List.cons_ne_nil _ _)).tail more).not_all_empty] at last
    exact .inl (arrives here (directory folder) plain _)
  | @enter _ start name rest node _ folder plain found noLink leads ih =>
    by_cases same : start ++ [name] = place
    · obtain ⟨rfl, rfl⟩ := leads.eq_nil (same ▸ h.noDirectory)
      exact .inl (arrives same (directory folder) plain _)
    · rw [walk_enter (directory folder) plain ((h.other same).trans found) noLink]
      exact ih (ends (List.cons_ne_nil _ _)).tail here
  | itself folder plain found => exact .inl (arrives here (directory folder) plain _)
  | @link _ start name rest target _ folder plain found goesOn leads ih =>
    have more : rest ≠ [] := fun last => goesOn ⟨last, rfl⟩
    by_cases same : start ++ [name] = place
    · -- The way went on through the link, and now it meets the file.
      obtain ⟨next, rest, rfl⟩ := List.exists_cons_of_ne_nil more
      refine .inr ⟨?_, target, same ▸ found⟩
      rw [walk_enter (directory folder) plain (same ▸ h.present) (fun _ => Node.noConfusion),
        walk_cons_of_ne (by simp [same, h.present])]
    · rw [walk_link (directory folder) plain ((h.other same).trans found) (fun last => more last.1)]
      exact ih (fun _ => ((ends (List.cons_ne_nil _ _)).tail more).append _) here

/-! ### The temporary file -/

theorem put_put (disk : Disk) (place : Place) (first second : Node) :
    (disk.put place first).put place second = disk.put place second := by
  simp [put, List.filter_append, List.filter_filter]

/-- What is new can be taken away again. -/
theorem erase_put (absent : disk.node? place = none) : (disk.put place node).erase place = disk := by
  have inside : place ≠ [] := ne_nil_of_node?_ne (absent.trans_ne (by simp))
  rw [node?, if_neg inside, Option.map_eq_none_iff, List.find?_eq_none] at absent
  have kept : disk.nodes.filter (·.1 ≠ place) = disk.nodes :=
    List.filter_eq_self.2 fun entry member => by simpa using absent entry member
  simp only [put, erase, List.filter_append, kept]
  simp

/-- What is on a disk besides one more file. -/
theorem node?_of_put_file (h : (disk.put place (.file f)).node? p = some node)
    (noFile : ∀ g, node ≠ .file g) : disk.node? p = some node := by
  rw [node?_put] at h
  split_ifs at h
  · exact absurd (Option.some.inj h).symm (noFile f)
  · exact h

/-- Without a file the ways lead to the same places, also those to the file. -/
theorem Leads.without_file {follow : Bool} {links : ℕ} {start : Place} {names : List SystemText}
    {destination : Destination} (absent : disk.node? place = none)
    (h : Leads (disk.put place (.file f)) follow links start names destination) :
    ∃ destination', Leads disk follow links start names destination' ∧
      destination'.place = destination.place := by
  have directory {folder : Place}
      (there : (disk.put place (.file f)).node? folder = some .directory) :
      disk.node? folder = some .directory :=
    node?_of_put_file there (fun _ => Node.noConfusion)
  induction h with
  | here => exact ⟨_, .here, rfl⟩
  | move folder moves _ ih =>
    obtain ⟨destination', leads, same⟩ := ih
    exact ⟨destination', .move (directory folder) moves leads, same⟩
  | @missing _ folder name _ there plain free last =>
    refine ⟨_, .missing (directory there) plain ?_ last, rfl⟩
    rw [node?_put] at free
    split_ifs at free
    exact free
  | @enter _ folder name rest node _ there plain found noLink leads ih =>
    by_cases new : folder ++ [name] = place
    · -- The way ends at the file, which is the missing name without it.
      obtain ⟨rfl, rfl⟩ := leads.eq_nil (by simp [node?_put, ← new])
      exact ⟨_, .missing (directory there) plain (new ▸ absent) rfl, rfl⟩
    · obtain ⟨destination', leads, same⟩ := ih
      rw [node?_put, if_neg fun here => new here.1] at found
      exact ⟨destination', .enter (directory there) plain found noLink leads, same⟩
  | itself folder plain found stays =>
    exact ⟨_, .itself (directory folder) plain
      (node?_of_put_file found (fun _ => Node.noConfusion)) stays, rfl⟩
  | link folder plain found goesOn _ ih =>
    obtain ⟨destination', leads, same⟩ := ih
    exact ⟨destination', .link (directory folder) plain
      (node?_of_put_file found (fun _ => Node.noConfusion)) goesOn leads, same⟩

/-! ### The steps of a replacement -/

theorem makeTemporary_eq_ok {route : Route} {temporary : Place}
    (h : disk.makeTemporary route = .ok (temporary, after)) :
    disk.allow .makeTemporary = .ok () ∧ disk.node? temporary = none ∧
      after = disk.put temporary (.file { bytes := [] }) := by
  obtain ⟨destination, -, h⟩ := bind_eq_ok_iff.1 h
  cases destination with
  | missing folder name => cases h
  | existing place =>
    simp only at h
    split_ifs at h
    obtain ⟨⟨⟩, allowed, h⟩ := bind_eq_ok_iff.1 h
    cases h
    exact ⟨allowed, disk.node?_freshName place, rfl⟩

/-- A path that can be located is followed from where it starts. -/
theorem locate_eq_ok {follow : Bool} {path : Path} {destination : Destination}
    (h : disk.locate follow path = .ok destination) :
    disk.destination follow path.route = .ok destination ∧
      ∀ (other : Disk) follow', other.locate follow' path = other.destination follow' path.route := by
  unfold locate at h ⊢
  split_ifs at h with empty nul long
  exact ⟨h, fun other follow' => by rw [if_neg empty, if_neg nul, if_neg long]⟩

theorem stat_eq_ok_iff {path : Path} :
    disk.stat path = .ok node ↔
      ∃ p, disk.locate true path = .ok (.existing p) ∧ disk.node? p = some node := by
  rw [stat, bind_eq_ok_iff]
  constructor
  · rintro ⟨destination | _, leads, there⟩
    · refine ⟨_, leads, ?_⟩
      simp only at there
      cases found : disk.node? _ with
      | none => simp [found] at there
      | some node' => simpa [found] using there
    · cases there
  · rintro ⟨p, leads, there⟩
    exact ⟨_, leads, by simp [there]⟩

theorem isFile_iff {path : Path} : disk.isFile path ↔ ∃ f, disk.stat path = .ok (.file f) := by
  unfold isFile
  split
  · next f there => simp [there]
  · next other => simpa using other

theorem rename_eq_ok {source : Place} {target : Path} (h : disk.rename source target = .ok after) :
    ∃ destination node, disk.locate false target = .ok destination ∧
      target.fileName?.isSome ∧ disk.node? source = some node ∧
      disk.node? destination.place ≠ some .directory ∧ disk.allow .rename = .ok () ∧
      after = (disk.erase source).put destination.place node := by
  obtain ⟨destination, leads, h⟩ := bind_eq_ok_iff.1 h
  by_cases named : target.fileName?.isNone
  case pos => simp [named, bind, Except.bind] at h
  simp only [named, Bool.false_eq_true, if_false] at h
  refine ⟨destination, ?_⟩
  cases present : disk.node? source with
  | none => simp [present] at h
  | some node =>
    refine ⟨node, leads, by simpa [Option.isSome_iff_ne_none] using named, rfl, ?_⟩
    rw [present] at h
    cases destination with
    | missing folder name =>
      have absent : disk.node? (folder ++ [name]) = none :=
        (walk_eq_ok_iff.1 (locate_eq_ok leads).1).absent.2
      obtain ⟨⟨⟩, allowed, h⟩ := bind_eq_ok_iff.1 h
      cases h
      exact ⟨by simp [Destination.place, absent], allowed, rfl⟩
    | existing place =>
      simp only at h
      split_ifs at h with directory
      obtain ⟨⟨⟩, allowed, h⟩ := bind_eq_ok_iff.1 h
      cases h
      exact ⟨directory, allowed, rfl⟩

/-- What is moved over a path was the temporary file, and only the path's place changes. -/
theorem put_of_rename {target : Path} (fresh : disk.node? place = none)
    (h : (disk.put place (.file f)).rename place target = .ok after) :
    ∃ destination, disk.locate false target = .ok destination ∧ target.fileName?.isSome ∧
      disk.node? destination.place ≠ some .directory ∧ disk.allow .rename = .ok () ∧
      after = disk.put destination.place (.file f) := by
  have inside : place ≠ [] := ne_nil_of_node?_ne (fresh.trans_ne (by simp))
  obtain ⟨filled, node, leads, named, present, noDirectory, allowed, rfl⟩ := rename_eq_ok h
  rw [node?_put, if_pos ⟨rfl, inside⟩] at present
  cases present
  obtain ⟨leads, located⟩ := locate_eq_ok leads
  obtain ⟨destination, leads, same⟩ := (walk_eq_ok_iff.1 leads).without_file fresh
  refine ⟨destination, ?_, named, fun directory => ?_, allowed, ?_⟩
  · rw [located disk false]
    exact walk_eq_ok_iff.2 leads
  · rw [same] at directory
    rw [node?_put, if_neg] at noDirectory
    · exact noDirectory directory
    · rintro ⟨here, -⟩
      rw [here, fresh] at directory
      cases directory
  · rw [erase_put fresh, same]

/-- What is left of a replacement after the directories have been made. -/
inductive Replacement (made : Disk) (target : Path) (f : File) : Except Fault Unit → Disk → Prop
  /-- Every node is the one that was there. -/
  | failed {fault : Fault} {after : Disk} (same : ∀ p, after.node? p = made.node? p)
    (current : after.current = made.current) :
    Replacement made target f (.error fault) after
  | done {after : Disk} {destination : Destination}
    (leads : made.locate false target = .ok destination) (named : target.fileName?.isSome)
    (replaced : Replaced made after destination.place f) :
    Replacement made target f (.ok ()) after

/-- Every step of a replacement can fail, and none leaves more than directories. -/
theorem exists_replacement {target : Path} {bytes : List UInt8} {outcome : Except Fault Unit}
    (h : disk.replaceFile target bytes = (outcome, after)) :
    ∃ made, MakesWay disk made target.parent ∧
      Replacement made target { bytes := bytes } outcome after := by
  rw [replaceFile] at h
  by_cases long : longestPath < target.folder.bytes.length
  · rw [if_pos long] at h
    cases h
    exact ⟨_, .refl _ _, .failed (fun _ => rfl) rfl⟩
  rw [if_neg long] at h
  have ways := disk.makeDirectories_makesWay target.parent.absolute target.parent.names.reverse
  rw [List.reverse_reverse] at ways
  split at h
  · next fault made making =>
    rw [making] at ways
    cases h
    exact ⟨_, ways, .failed (fun _ => rfl) rfl⟩
  next made making =>
  rw [making] at ways
  refine ⟨made, ways, ?_⟩
  split at h
  · cases h
    exact .failed (fun _ => rfl) rfl
  next temporary opened opening =>
  obtain ⟨-, fresh, rfl⟩ := makeTemporary_eq_ok opening
  split at h
  · next moved moving =>
    cases h
    obtain ⟨-, -, moving⟩ := bind_eq_ok_iff.1 moving
    obtain ⟨-, -, moving⟩ := bind_eq_ok_iff.1 moving
    rw [put_put] at moving
    obtain ⟨destination, leads, named, noDirectory, -, rfl⟩ := put_of_rename fresh moving
    exact .done leads named (replaced_put noDirectory)
  · cases h
    refine .failed (fun p => ?_) rfl
    rw [node?_erase, node?_put]
    split_ifs with here
    · rw [here.1, fresh]
    · rfl

theorem replaceFile_eq_ok {target : Path} {bytes : List UInt8}
    (h : disk.replaceFile target bytes = (.ok (), saved)) :
    ∃ made destination, MakesWay disk made target.parent ∧ target.fileName?.isSome ∧
      made.locate false target = .ok destination ∧
      Replaced made saved destination.place { bytes := bytes } := by
  obtain ⟨made, ways, replacement⟩ := exists_replacement h
  cases replacement with
  | done leads named replaced => exact ⟨made, _, ways, named, leads, replaced⟩

/-! ### Where the path leads -/

theorem endsInName_of_fileName? {path : Path} (h : path.fileName?.isSome) :
    EndsInName path.route.names := by
  obtain ⟨name, named⟩ := Option.isSome_iff_exists.1 h
  rw [Path.fileName?, Option.filter_eq_some_iff] at named
  obtain ⟨last, plain⟩ := named
  exact ⟨name, last, (of_decide_eq_true plain).1⟩

/-- After a replacement the path reaches the new file, followed to the end or not. -/
theorem Replaced.locate {made : Disk} {target : Path} {destination : Destination}
    (replaced : Replaced made after destination.place f)
    (leads : made.locate false target = .ok destination) (named : target.fileName?.isSome)
    (follow : Bool) : Reaches made destination.place (after.locate follow target) := by
  obtain ⟨leads, located⟩ := locate_eq_ok leads
  rw [located after follow, Disk.destination, replaced.current]
  exact replaced.walk follow (fun _ => endsInName_of_fileName? named) (walk_eq_ok_iff.1 leads) rfl

/-- After a replacement the path leads to the new file. The exception is a path
that went through a symbolic link which is now the file. -/
theorem Replaced.stat {made : Disk} {target : Path} {destination : Destination}
    (replaced : Replaced made after destination.place f)
    (leads : made.locate false target = .ok destination) (named : target.fileName?.isSome) :
    after.stat target = .ok (.file f) ∨
      after.stat target = .error .notDirectory ∧
        ∃ link, made.node? destination.place = some (.link link) := by
  obtain there | ⟨refused, linked⟩ := replaced.locate leads named true
  · left
    simp [Disk.stat, there, replaced.present, bind, Except.bind]
  · refine .inr ⟨?_, linked⟩
    simp [Disk.stat, refused, bind, Except.bind]

theorem stat_of_replaceFile {target : Path} {bytes : List UInt8}
    (h : disk.replaceFile target bytes = (.ok (), saved)) :
    saved.stat target = .ok (.file { bytes := bytes }) ∨
      saved.stat target = .error .notDirectory ∧
        ∃ place link, disk.node? place = some (.link link) ∧
          saved.node? place = some (.file { bytes := bytes }) := by
  obtain ⟨made, destination, ways, named, leads, replaced⟩ := replaceFile_eq_ok h
  refine (replaced.stat leads named).imp_right ?_
  rintro ⟨refused, link, linked⟩
  exact ⟨refused, destination.place, link, ways.link linked, replaced.present⟩

end Disk

end DetectionMerge
