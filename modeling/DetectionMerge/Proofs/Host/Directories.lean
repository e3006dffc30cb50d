import DetectionMerge.Proofs.Host.Way
import DetectionMerge.Proofs.Text.System
import DetectionMerge.Proofs.Traversal

/-! Making directories on the way to a file. Nothing that was on the disk is lost,
and all that is new are directories which the way leads through. -/

namespace DetectionMerge.Disk

open Traversal (bind_eq_ok_iff)

variable {disk before between after : Disk} {p place folder : Place} {route : Route}
  {name : SystemText} {names rest : List SystemText} {links : ℕ} {follow : Bool}

/-! ### Growing disks -/

/-- What is on the first disk is on the second one too, which may have more. -/
structure Grows (before after : Disk) : Prop where
  kept : ∀ {p node}, before.node? p = some node → after.node? p = some node
  current : after.current = before.current

theorem Grows.refl (disk : Disk) : Grows disk disk := ⟨id, rfl⟩

theorem Grows.trans (h : Grows before between) (h' : Grows between after) : Grows before after :=
  ⟨fun found => h'.kept (h.kept found), h'.current.trans h.current⟩

theorem grows_put {node : Node} (absent : disk.node? place = none) :
    Grows disk (disk.put place node) := by
  refine ⟨fun {p there} found => ?_, rfl⟩
  rw [node?_put, if_neg, found]
  rintro ⟨rfl, -⟩
  rw [absent] at found
  cases found

/-- A way that has led somewhere still leads there. -/
theorem Grows.leads (h : Grows before after)
    (leads : Leads before follow links place names (.existing p)) :
    Leads after follow links place names (.existing p) :=
  leads.transfer h.kept h.kept fun found noLink => ⟨_, h.kept found, noLink⟩

theorem Grows.destination (h : Grows before after)
    (leads : before.destination follow route = .ok (.existing p)) :
    after.destination follow route = .ok (.existing p) := by
  rw [Disk.destination, walk_eq_ok_iff] at leads ⊢
  rw [h.current]
  exact h.leads leads

/-! ### One directory -/

theorem leads_of_all_empty (directory : disk.node? place = some .directory)
    (empty : rest.all (· = "")) : Leads disk follow links place rest (.existing place) := by
  induction rest with
  | nil => exact .here
  | cons name rest ih =>
    rw [List.all_cons, Bool.and_eq_true, decide_eq_true_iff] at empty
    exact .move directory (.inl ⟨.inl empty.1, rfl⟩) (ih empty.2)

/-- A way to a missing name leads to the directory that is made there. -/
theorem Leads.put_directory (h : Leads disk false links place names (.missing folder name)) :
    Leads (disk.put (folder ++ [name]) .directory) true links place names
      (.existing (folder ++ [name])) := by
  have grows : Grows disk (disk.put (folder ++ [name]) .directory) := grows_put h.absent.2
  have there : (disk.put (folder ++ [name]) .directory).node? (folder ++ [name]) =
      some .directory := by
    rw [node?_put, if_pos ⟨rfl, by simp⟩]
  generalize same : Destination.missing folder name = destination at h
  induction h with
  | here | itself => cases same
  | move folder moves _ ih => exact .move (grows.kept folder) moves (ih same)
  | missing directory plain absent last =>
    cases same
    exact .enter (grows.kept directory) plain there (fun _ => Node.noConfusion)
      (leads_of_all_empty there last)
  | enter folder plain found noLink _ ih =>
    exact .enter (grows.kept folder) plain (grows.kept found) noLink (ih same)
  | link folder plain found goesOn _ ih =>
    exact .link (grows.kept folder) plain (grows.kept found) (by simp) (ih same)

/-! ### The directories of a route -/

/-- The second disk is the first one with new directories, each of them where a
beginning of the route leads. -/
structure MakesWay (before after : Disk) (route : Route) : Prop extends Grows before after where
  added : ∀ {p}, before.node? p = none → after.node? p = none ∨
    after.node? p = some .directory ∧ ∃ names, names <+: route.names ∧
      after.destination true ⟨route.absolute, names⟩ = .ok (.existing p)

theorem MakesWay.refl (disk : Disk) (route : Route) : MakesWay disk disk route :=
  ⟨.refl disk, .inl⟩

theorem MakesWay.trans (h : MakesWay before between route) (h' : MakesWay between after route) :
    MakesWay before after route := by
  refine ⟨h.toGrows.trans h'.toGrows, fun absent => ?_⟩
  obtain absent | ⟨found, names, first, leads⟩ := h.added absent
  · exact h'.added absent
  · exact .inr ⟨h'.kept found, names, first, h'.toGrows.destination leads⟩

/-- Only what is at the places matters. -/
theorem MakesWay.of_same (h : MakesWay before between route)
    (same : ∀ p, after.node? p = between.node? p) (current : after.current = between.current) :
    MakesWay before after route :=
  h.trans ⟨⟨fun {p _} found => (same p).trans found, current⟩, fun {p} absent =>
    .inl ((same p).trans absent)⟩

theorem MakesWay.longer {absolute : Bool} (h : MakesWay before after ⟨absolute, names⟩)
    (first : names <+: rest) : MakesWay before after ⟨absolute, rest⟩ := by
  refine ⟨h.toGrows, fun absent => (h.added absent).imp_right ?_⟩
  rintro ⟨found, names', first', leads⟩
  exact ⟨found, names', first'.trans first, leads⟩

theorem MakesWay.link {target : Path} (h : MakesWay before after route)
    (link : after.node? p = some (.link target)) : before.node? p = some (.link target) := by
  cases found : before.node? p with
  | some node => rw [← h.kept found, link]
  | none =>
    obtain absent | ⟨directory, -⟩ := h.added found
    · rw [link] at absent
      cases absent
    · rw [link] at directory
      cases directory

theorem makeDirectory_eq_ok (h : disk.makeDirectory route = .ok after) :
    ∃ folder name, disk.destination false route = .ok (.missing folder name) ∧
      after = disk.put (folder ++ [name]) .directory := by
  obtain ⟨destination, leads, h⟩ := bind_eq_ok_iff.1 h
  cases destination with
  | existing place => cases h
  | missing folder name =>
    obtain ⟨-, -, h⟩ := bind_eq_ok_iff.1 h
    cases h
    exact ⟨folder, name, leads, rfl⟩

theorem makeDirectory_makesWay (h : disk.makeDirectory route = .ok after) :
    MakesWay disk after route := by
  obtain ⟨folder, name, leads, rfl⟩ := makeDirectory_eq_ok h
  rw [Disk.destination, walk_eq_ok_iff] at leads
  refine ⟨grows_put leads.absent.2, fun {p} absent => ?_⟩
  rw [node?_put]
  split_ifs with new
  · obtain ⟨rfl, -⟩ := new
    refine .inr ⟨rfl, route.names, List.prefix_rfl, ?_⟩
    rw [Disk.destination, walk_eq_ok_iff]
    exact leads.put_directory
  · exact .inl absent

/-- What every directory on the way keeps, making them all keeps, also if a step fails. -/
theorem makeDirectories_induction {P : Disk → Prop} {absolute : Bool}
    (makes : ∀ {made made' first}, first <+: names.reverse → P made →
      made.makeDirectory ⟨absolute, first⟩ = .ok made' → P made') (h : P disk) :
    P (disk.makeDirectories absolute names).2 := by
  induction names generalizing disk with
  | nil => exact h
  | cons name above ih =>
    rw [makeDirectories]
    cases made : disk.makeDirectory ⟨absolute, (name :: above).reverse⟩ with
    | ok made' => exact makes List.prefix_rfl h made
    | error fault =>
      have unchanged (there : Bool) (fault : Fault) :
          P (if there then (.ok (), disk) else ((.error fault : Except Fault Unit), disk)).2 := by
        split_ifs <;> exact h
      cases fault
      case notFound =>
        have longer : above.reverse <+: (name :: above).reverse := by simp
        have upper := ih (fun first => makes (first.trans longer)) h
        cases result : disk.makeDirectories absolute above with
        | mk outcome made' =>
          rw [result] at upper
          cases outcome with
          | error fault => exact upper
          | ok =>
            cases last : made'.makeDirectory ⟨absolute, (name :: above).reverse⟩ with
            | ok made'' => simpa only [last] using makes List.prefix_rfl upper last
            | error fault =>
              simp only [last]
              split_ifs <;> exact upper
      all_goals exact unchanged _ _

/-- What is made before a step fails is on the way too. -/
theorem makeDirectories_makesWay (disk : Disk) (absolute : Bool) (names : List SystemText) :
    MakesWay disk (disk.makeDirectories absolute names).2 ⟨absolute, names.reverse⟩ := by
  refine makeDirectories_induction (P := (MakesWay disk · ⟨absolute, names.reverse⟩)) ?_ (.refl disk _)
  intro made made' first longer way making
  exact way.trans ((makeDirectory_makesWay making).longer longer)

/-- What putting a directory somewhere keeps. -/
theorem makeDirectories_keeps {P : Disk → Prop} (absolute : Bool) (names : List SystemText)
    (keeps : ∀ made place, P made → P (made.put place .directory)) (h : P disk) :
    P (disk.makeDirectories absolute names).2 := by
  refine makeDirectories_induction (P := P) ?_ h
  intro made made' first _ holds making
  obtain ⟨folder, name, -, rfl⟩ := makeDirectory_eq_ok making
  exact keeps made _ holds

/-! ### Fresh names -/

theorem temporary_injective (folder : Place) :
    Function.Injective fun n : ℕ => folder ++ [SystemText.ofString (".tmp" ++ toString n)] := by
  intro m n same
  have names : ".tmp" ++ toString m = ".tmp" ++ toString n := by simpa using same
  have digits : Nat.toDigits 10 m = Nat.toDigits 10 n :=
    String.ofList_injective ((String.append_right_inj _).1 names)
  calc m = Nat.ofDigitChars 10 (Nat.toDigits 10 m) 0 := Nat.ofDigitChars_ten_toDigits.symm
    _ = n := by rw [digits, Nat.ofDigitChars_ten_toDigits]

/-- One of the candidates is free, as there are more of them than nodes. -/
theorem node?_freshName (disk : Disk) (folder : Place) :
    disk.node? (folder ++ [disk.freshName folder]) = none := by
  cases found : ((List.range (disk.nodes.length + 1)).map
      fun n => SystemText.ofString (".tmp" ++ toString n)).find?
      fun name => (disk.node? (folder ++ [name])).isNone with
  | some name =>
    have free := List.find?_some found
    rw [freshName, found]
    exact Option.isNone_iff_eq_none.1 free
  | none =>
    exfalso
    -- All candidates would be places of nodes.
    have taken : (List.range (disk.nodes.length + 1)).map
        (fun n => folder ++ [SystemText.ofString (".tmp" ++ toString n)]) ⊆ disk.nodes.map (·.1) := by
      intro place candidate
      obtain ⟨n, inside, rfl⟩ := List.mem_map.1 candidate
      have present := List.find?_eq_none.1 found _ (List.mem_map_of_mem inside)
      rw [Option.isNone_iff_eq_none, node?, if_neg (by simp), Option.map_eq_none_iff,
        List.find?_eq_none, not_forall] at present
      obtain ⟨entry, present⟩ := present
      rw [Classical.not_imp, not_not, decide_eq_true_iff] at present
      exact List.mem_map.2 ⟨entry, present⟩
    have count := ((List.nodup_range.map (temporary_injective folder)).subperm taken).length_le
    rw [List.length_map, List.length_map, List.length_range] at count
    omega

end DetectionMerge.Disk
