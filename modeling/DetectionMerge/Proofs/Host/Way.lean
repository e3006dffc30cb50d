import DetectionMerge.Host.Disk
import Mathlib.Tactic

/-! Where a way through the directories leads. The walk along the names of a
route is described by one rule for each kind of name, links included, so that
what is proved about ways is an induction on these rules. -/

namespace DetectionMerge

/-- The place that a destination names, whether or not there is anything. -/
def Destination.place : Destination → Place
  | existing place => place
  | missing folder name => folder ++ [name]

namespace Disk

variable {disk : Disk} {place p : Place} {node : Node}

/-! ### Nodes -/

theorem find?_filter_place (nodes : List (Place × Node)) (place p : Place) :
    (nodes.filter (·.1 ≠ place)).find? (·.1 = p) =
      if p = place then none else nodes.find? (·.1 = p) := by
  split_ifs with same
  · rw [List.find?_eq_none]
    intro entry kept
    simpa [same] using (List.mem_filter.1 kept).2
  · rw [List.find?_filter]
    congr 1
    funext entry
    by_cases here : entry.1 = p <;> simp [here, same]

theorem node?_put :
    (disk.put place node).node? p = if p = place ∧ p ≠ [] then some node else disk.node? p := by
  by_cases root : p = []
  · simp [node?, root]
  · rw [node?, node?, if_neg root, if_neg root, put, List.find?_append, find?_filter_place]
    by_cases same : p = place
    · subst same
      simp [root]
    · simp [same, Ne.symm same]

theorem node?_erase :
    (disk.erase place).node? p = if p = place ∧ p ≠ [] then none else disk.node? p := by
  by_cases root : p = []
  · simp [node?, root]
  · rw [node?, node?, if_neg root, if_neg root, erase, find?_filter_place]
    by_cases same : p = place
    · subst same
      simp [root]
    · simp [same]

theorem ne_nil_of_node?_ne (h : disk.node? place ≠ some .directory) : place ≠ [] := by
  rintro rfl
  exact h rfl

/-! ### One name -/

/-- A name that is looked up in its directory. -/
def IsPlain (name : SystemText) : Prop :=
  ¬(name = "" ∨ name = ".") ∧ name ≠ ".." ∧ ¬name.bytes.contains 0 ∧
    ¬255 < name.bytes.length

/-- A name that is not looked up, and the place that it leads to. -/
def Moves (place : Place) (name : SystemText) (next : Place) : Prop :=
  (name = "" ∨ name = ".") ∧ next = place ∨
    ¬(name = "" ∨ name = ".") ∧ name = ".." ∧ next = place.dropLast

section Walk

variable {follow : Bool} {links : ℕ} {name : SystemText} {rest : List SystemText} {next : Place}
  {target : Path}

/-- What becomes of the target of a link. -/
def expansion (disk : Disk) (follow : Bool) : ℕ → Place → List SystemText → Except Fault Destination
  | 0 => fun _ _ => .error .tooManyLinks
  | links + 1 => disk.walk follow links

theorem walk_eq_visit (disk : Disk) (follow : Bool) (links : ℕ) :
    disk.walk follow links = disk.visit follow (disk.expansion follow links) := by
  cases links <;> rfl

@[simp] theorem walk_nil : disk.walk follow links place [] = .ok (.existing place) := by
  rw [walk_eq_visit, visit]

/-- From a node that is no directory no name leads on. -/
theorem walk_cons_of_ne (h : disk.node? place ≠ some .directory) :
    disk.walk follow links place (name :: rest) = .error .notDirectory := by
  rw [walk_eq_visit, visit, if_pos h]

theorem walk_move (folder : disk.node? place = some .directory) (moves : Moves place name next) :
    disk.walk follow links place (name :: rest) = disk.walk follow links next rest := by
  rw [walk_eq_visit, visit, if_neg (not_not_intro folder)]
  obtain ⟨stays, rfl⟩ | ⟨goes, climbs, rfl⟩ := moves
  · rw [if_pos stays]
  · rw [if_neg goes, if_pos climbs]

theorem walk_plain (folder : disk.node? place = some .directory) (plain : IsPlain name) :
    disk.walk follow links place (name :: rest) =
      match disk.node? (place ++ [name]) with
      | none => if rest.all (· = "") then .ok (.missing place name) else .error .notFound
      | some (.link target) =>
        if rest = [] ∧ !follow then .ok (.existing (place ++ [name]))
        else disk.expansion follow links (if target.isAbsolute then [] else place)
          (target.route.names ++ rest)
      | some _ => disk.walk follow links (place ++ [name]) rest := by
  obtain ⟨moves, climbs, nul, long⟩ := plain
  rw [walk_eq_visit, visit, if_neg (not_not_intro folder), if_neg moves, if_neg climbs, if_neg nul]
  exact if_neg long

theorem walk_missing (folder : disk.node? place = some .directory) (plain : IsPlain name)
    (absent : disk.node? (place ++ [name]) = none) (last : rest.all (· = "")) :
    disk.walk follow links place (name :: rest) = .ok (.missing place name) := by
  simp only [walk_plain folder plain, absent, if_pos last]

theorem walk_enter (folder : disk.node? place = some .directory) (plain : IsPlain name)
    (found : disk.node? (place ++ [name]) = some node) (noLink : ∀ target, node ≠ .link target) :
    disk.walk follow links place (name :: rest) =
      disk.walk follow links (place ++ [name]) rest := by
  rw [walk_plain folder plain, found]
  cases node with
  | link target => exact absurd rfl (noLink target)
  | _ => rfl

theorem walk_itself (folder : disk.node? place = some .directory) (plain : IsPlain name)
    (found : disk.node? (place ++ [name]) = some (.link target)) :
    disk.walk false links place [name] = .ok (.existing (place ++ [name])) := by
  simp only [walk_plain folder plain, found, Bool.not_false, and_self, if_true]

theorem walk_link (folder : disk.node? place = some .directory) (plain : IsPlain name)
    (found : disk.node? (place ++ [name]) = some (.link target))
    (goesOn : ¬(rest = [] ∧ follow = false)) :
    disk.walk follow (links + 1) place (name :: rest) =
      disk.walk follow links (if target.isAbsolute then [] else place)
        (target.route.names ++ rest) := by
  simp only [walk_plain folder plain, found, Bool.not_eq_true', if_neg goesOn]
  rfl

end Walk

/-! ### The whole way -/

/-- From a place the names lead to a destination, through at most so many links. -/
inductive Leads (disk : Disk) (follow : Bool) : ℕ → Place → List SystemText → Destination → Prop
  | here {links : ℕ} {place : Place} : Leads disk follow links place [] (.existing place)
  | move {links : ℕ} {place next : Place} {name : SystemText} {rest : List SystemText}
    {destination : Destination} (folder : disk.node? place = some .directory)
    (moves : Moves place name next) (leads : Leads disk follow links next rest destination) :
    Leads disk follow links place (name :: rest) destination
  | missing {links : ℕ} {place : Place} {name : SystemText} {rest : List SystemText}
    (folder : disk.node? place = some .directory) (plain : IsPlain name)
    (absent : disk.node? (place ++ [name]) = none) (last : rest.all (· = "")) :
    Leads disk follow links place (name :: rest) (.missing place name)
  | enter {links : ℕ} {place : Place} {name : SystemText} {rest : List SystemText} {node : Node}
    {destination : Destination} (folder : disk.node? place = some .directory)
    (plain : IsPlain name) (found : disk.node? (place ++ [name]) = some node)
    (noLink : ∀ target, node ≠ .link target)
    (leads : Leads disk follow links (place ++ [name]) rest destination) :
    Leads disk follow links place (name :: rest) destination
  /-- A last link that is not to be followed. -/
  | itself {links : ℕ} {place : Place} {name : SystemText} {target : Path}
    (folder : disk.node? place = some .directory) (plain : IsPlain name)
    (found : disk.node? (place ++ [name]) = some (.link target)) (stays : follow = false) :
    Leads disk follow links place [name] (.existing (place ++ [name]))
  | link {links : ℕ} {place : Place} {name : SystemText} {rest : List SystemText} {target : Path}
    {destination : Destination} (folder : disk.node? place = some .directory)
    (plain : IsPlain name) (found : disk.node? (place ++ [name]) = some (.link target))
    (goesOn : ¬(rest = [] ∧ follow = false))
    (leads : Leads disk follow links (if target.isAbsolute then [] else place)
      (target.route.names ++ rest) destination) :
    Leads disk follow (links + 1) place (name :: rest) destination

section Leads

variable {follow : Bool} {links : ℕ} {name : SystemText} {names rest : List SystemText}
  {destination : Destination}

theorem walk_of_leads (h : Leads disk follow links place names destination) :
    disk.walk follow links place names = .ok destination := by
  induction h with
  | here => exact walk_nil
  | move folder moves _ ih => rw [walk_move folder moves, ih]
  | missing folder plain absent last => exact walk_missing folder plain absent last
  | enter folder plain found noLink _ ih => rw [walk_enter folder plain found noLink, ih]
  | itself folder plain found stays =>
    subst stays
    exact walk_itself folder plain found
  | link folder plain found goesOn _ ih => rw [walk_link folder plain found goesOn, ih]

theorem exists_moves (place : Place) (h : name = "" ∨ name = "." ∨ name = "..") :
    ∃ next, Moves place name next := by
  by_cases stays : name = "" ∨ name = "."
  · exact ⟨place, .inl ⟨stays, rfl⟩⟩
  · exact ⟨place.dropLast, .inr ⟨stays, by tauto, rfl⟩⟩

/-- A name that is neither looked up nor moves is refused. -/
theorem walk_refused (folder : disk.node? place = some .directory) (plain : ¬IsPlain name)
    (stays : ¬(name = "" ∨ name = "." ∨ name = "..")) :
    ∃ fault, disk.walk follow links place (name :: rest) = .error fault := by
  have moves : ¬(name = "" ∨ name = ".") := by tauto
  have climbs : name ≠ ".." := by tauto
  rw [walk_eq_visit, visit, if_neg (not_not_intro folder), if_neg moves, if_neg climbs]
  by_cases nul : name.bytes.contains 0
  · exact ⟨_, if_pos nul⟩
  · rw [if_neg nul]
    exact ⟨_, if_pos (by_contra fun long => plain ⟨moves, climbs, nul, long⟩)⟩

/-- One level of links: the walk obeys the rules if the expansion of links does. -/
theorem leads_of_expansion
    (expands : ∀ {start names destination},
      disk.expansion follow links start names = .ok destination →
        ∃ fewer, links = fewer + 1 ∧ Leads disk follow fewer start names destination)
    (h : disk.walk follow links place names = .ok destination) :
    Leads disk follow links place names destination := by
  induction names generalizing place with
  | nil =>
    rw [walk_nil, Except.ok.injEq] at h
    exact h ▸ .here
  | cons name rest ih =>
    by_cases folder : disk.node? place = some .directory
    case neg => simp [walk_cons_of_ne folder] at h
    by_cases stays : name = "" ∨ name = "." ∨ name = ".."
    · obtain ⟨next, moves⟩ := exists_moves place stays
      rw [walk_move folder moves] at h
      exact .move folder moves (ih h)
    by_cases plain : IsPlain name
    case neg =>
      have refused : ∃ fault, disk.walk follow links place (name :: rest) = .error fault :=
        walk_refused folder plain stays
      obtain ⟨fault, refused⟩ := refused
      simp [refused] at h
    cases found : disk.node? (place ++ [name]) with
    | none =>
      simp only [walk_plain folder plain, found] at h
      split_ifs at h with last
      cases h
      exact .missing folder plain found last
    | some node =>
      by_cases noLink : ∀ target, node ≠ .link target
      · rw [walk_enter folder plain found noLink] at h
        exact .enter folder plain found noLink (ih h)
      obtain ⟨target, rfl⟩ := not_forall_not.1 noLink
      by_cases goesOn : rest = [] ∧ follow = false
      · obtain ⟨rfl, rfl⟩ := goesOn
        rw [walk_itself folder plain found, Except.ok.injEq] at h
        exact h ▸ .itself folder plain found rfl
      · simp only [walk_plain folder plain, found, Bool.not_eq_true', if_neg goesOn] at h
        obtain ⟨fewer, rfl, leads⟩ := expands h
        exact .link folder plain found goesOn leads

/-- The walk gives exactly the destinations that the rules allow. -/
theorem walk_eq_ok_iff : disk.walk follow links place names = .ok destination ↔
    Leads disk follow links place names destination := by
  refine ⟨fun h => ?_, walk_of_leads⟩
  induction links generalizing place names destination with
  | zero => exact leads_of_expansion (fun impossible => nomatch impossible) h
  | succ links ih => exact leads_of_expansion (fun expanded => ⟨links, rfl, ih expanded⟩) h

/-- A way that ends at a node which is no directory ends there with its names. -/
theorem Leads.eq_nil (h : Leads disk follow links place names destination)
    (noDirectory : disk.node? place ≠ some .directory) :
    names = [] ∧ destination = .existing place := by
  cases h with
  | here => exact ⟨rfl, rfl⟩
  | move folder | missing folder | enter folder | itself folder | link folder =>
    exact absurd folder noDirectory

/-- A way is kept by a disk that has the same directories and links, and something that is
no link either at the end of the way. -/
theorem Leads.transfer {other : Disk}
    (h : Leads disk follow links place names (.existing p))
    (directories : ∀ {q}, disk.node? q = some .directory → other.node? q = some .directory)
    (linked : ∀ {q target}, disk.node? q = some (.link target) →
      other.node? q = some (.link target))
    (ends : ∀ {node}, disk.node? p = some node → (∀ target, node ≠ .link target) →
      ∃ node', other.node? p = some node' ∧ ∀ target, node' ≠ .link target) :
    Leads other follow links place names (.existing p) := by
  generalize same : Destination.existing p = destination at h ⊢
  induction h with
  | here => exact .here
  | move folder moves _ ih => exact .move (directories folder) moves (ih same)
  | missing => cases same
  | @enter _ place name _ node _ folder plain found noLink leads ih =>
    by_cases directory : node = .directory
    · exact .enter (directories folder) plain (directories (directory ▸ found))
        (fun _ => Node.noConfusion) (ih same)
    · -- The way ends at what is no directory.
      obtain ⟨rfl, rfl⟩ := leads.eq_nil (by simpa [found] using directory)
      cases same
      obtain ⟨node', found', noLink'⟩ := ends found noLink
      exact .enter (directories folder) plain found' noLink' .here
  | itself folder plain found stays => exact .itself (directories folder) plain (linked found) stays
  | link folder plain found goesOn _ ih =>
    exact .link (directories folder) plain (linked found) goesOn (ih same)

theorem Leads.absent {folder : Place}
    (h : Leads disk follow links place names (.missing folder name)) :
    disk.node? folder = some .directory ∧ disk.node? (folder ++ [name]) = none := by
  generalize same : Destination.missing folder name = destination at h
  induction h with
  | here | itself => cases same
  | missing directory plain absent last =>
    cases same
    exact ⟨directory, absent⟩
  | move _ _ _ ih | enter _ _ _ _ _ ih | link _ _ _ _ _ ih => exact ih same

end Leads

end Disk

end DetectionMerge
