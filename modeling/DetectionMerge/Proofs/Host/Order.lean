import DetectionMerge.Host.Process
import DetectionMerge.Proofs.Host.Way
import DetectionMerge.Proofs.Traversal

/-! The order in which a directory is listed. Disks with the same nodes in another
order answer in the same way and stay so under every operation; only a listing
shows the order. -/

namespace DetectionMerge

namespace Disk

open Traversal (Agree)

/-- Two disks with the same nodes, perhaps listed in another order. -/
structure Same (a b : Disk) : Prop where
  nodes : a.nodes.Perm b.nodes
  /-- Also where a place is listed twice. -/
  node? : ∀ p, a.node? p = b.node? p
  current : a.current = b.current
  refuses : a.refuses = b.refuses

/-- The same answer, with disks that are the same. -/
inductive SameAnswer {α : Type} : α × Disk → α × Disk → Prop
  | intro {a b : Disk} (answer : α) (same : Same a b) : SameAnswer (answer, a) (answer, b)

namespace Same

variable {a b : Disk}

theorem refl (a : Disk) : Same a a := ⟨.refl _, fun _ => rfl, rfl, rfl⟩

/-! ### Questions -/

theorem visit (h : Same a b) (follow : Bool)
    (expand : Place → List SystemText → Except Fault Destination) :
    a.visit follow expand = b.visit follow expand := by
  funext place names
  induction names generalizing place with
  | nil => rfl
  | cons name rest ih => simp only [Disk.visit, h.node?, ih]

theorem walk (h : Same a b) (follow : Bool) (links : ℕ) :
    a.walk follow links = b.walk follow links := by
  induction links with
  | zero => exact h.visit follow _
  | succ links ih => rw [Disk.walk, Disk.walk, ih, h.visit]

theorem destination (h : Same a b) (follow : Bool) (route : Route) :
    a.destination follow route = b.destination follow route := by
  rw [Disk.destination, Disk.destination, h.walk, h.current]

theorem locate (h : Same a b) (follow : Bool) (path : Path) :
    a.locate follow path = b.locate follow path := by
  rw [Disk.locate, Disk.locate, h.destination]

theorem stat (h : Same a b) (path : Path) : a.stat path = b.stat path := by
  simp only [Disk.stat, h.locate, h.node?]

theorem openNode (h : Same a b) (path : Path) : a.openNode path = b.openNode path := by
  rw [Disk.openNode, Disk.openNode, h.stat]

theorem read (h : Same a b) (path : Path) : a.read path = b.read path := by
  rw [Disk.read, Disk.read, h.openNode]

theorem isFile (h : Same a b) (path : Path) : a.isFile path = b.isFile path := by
  rw [Disk.isFile, Disk.isFile, h.stat]

theorem isDirectory (h : Same a b) (route : Route) : a.isDirectory route = b.isDirectory route := by
  simp only [Disk.isDirectory, h.destination, h.node?]

theorem allow (h : Same a b) (operation : DiskOperation) :
    a.allow operation = b.allow operation := by
  rw [Disk.allow, Disk.allow, h.refuses]

theorem list (h : Same a b) (path : Path) : Agree List.Perm (a.list path) (b.list path) := by
  rw [Disk.list, Disk.list, h.locate]
  refine .of_bind _ fun destination => ?_
  cases destination with
  | missing => exact .error _
  | existing place =>
    simp only [h.node?]
    split_ifs
    · exact .ok (h.nodes.filterMap _)
    · exact .error _

/-! ### Operations -/

theorem put (h : Same a b) (place : Place) (node : Node) :
    Same (a.put place node) (b.put place node) := by
  refine ⟨(h.nodes.filter _).append_right _, fun p => ?_, h.current, h.refuses⟩
  rw [node?_put, node?_put, h.node?]

theorem erase (h : Same a b) (place : Place) : Same (a.erase place) (b.erase place) := by
  refine ⟨h.nodes.filter _, fun p => ?_, h.current, h.refuses⟩
  rw [node?_erase, node?_erase, h.node?]

theorem makeDirectory (h : Same a b) (route : Route) :
    Agree Same (a.makeDirectory route) (b.makeDirectory route) := by
  rw [Disk.makeDirectory, Disk.makeDirectory, h.destination]
  refine .of_bind _ fun destination => ?_
  cases destination with
  | existing => exact .error _
  | missing folder name =>
    simp only [h.allow]
    exact .of_bind _ fun _ => .ok (h.put _ _)

theorem makeDirectories (h : Same a b) (absolute : Bool) (names : List SystemText) :
    SameAnswer (a.makeDirectories absolute names) (b.makeDirectories absolute names) := by
  induction names with
  | nil => exact .intro _ h
  | cons name above ih =>
    have tolerates {a b : Disk} (same : Same a b) (there : Bool) (fault : Fault) :
        SameAnswer (if there then (.ok (), a) else ((.error fault : Except Fault Unit), a))
          (if there then (.ok (), b) else (.error fault, b)) := by
      split_ifs <;> exact .intro _ same
    rw [Disk.makeDirectories, Disk.makeDirectories]
    simp only [h.isDirectory]
    have made := h.makeDirectory ⟨absolute, (name :: above).reverse⟩
    generalize a.makeDirectory _ = x at made ⊢
    generalize b.makeDirectory _ = y at made ⊢
    cases made with
    | ok same => exact .intro _ same
    | error fault =>
      cases fault
      case notFound =>
        generalize a.makeDirectories absolute above = x at ih ⊢
        generalize b.makeDirectories absolute above = y at ih ⊢
        cases ih with
        | @intro upper upper' outcome same =>
          cases outcome with
          | error fault => exact .intro _ same
          | ok =>
            simp only [same.isDirectory]
            have last := same.makeDirectory ⟨absolute, (name :: above).reverse⟩
            generalize upper.makeDirectory _ = x at last ⊢
            generalize upper'.makeDirectory _ = y at last ⊢
            cases last with
            | ok same => exact .intro _ same
            | error fault => exact tolerates same _ fault
      all_goals exact tolerates h _ _

theorem freshName (h : Same a b) (folder : Place) : a.freshName folder = b.freshName folder := by
  simp only [Disk.freshName, h.nodes.length_eq, h.node?]

theorem makeTemporary (h : Same a b) (folder : Route) :
    Agree (fun x y => x.1 = y.1 ∧ Same x.2 y.2) (a.makeTemporary folder)
      (b.makeTemporary folder) := by
  rw [Disk.makeTemporary, Disk.makeTemporary, h.destination]
  refine .of_bind _ fun destination => ?_
  cases destination with
  | missing => exact .error _
  | existing place =>
    simp only [h.node?, h.allow, h.freshName]
    split_ifs
    · exact .error _
    · exact .of_bind _ fun _ => .ok ⟨rfl, h.put _ _⟩

theorem rename (h : Same a b) (source : Place) (target : Path) :
    Agree Same (a.rename source target) (b.rename source target) := by
  rw [Disk.rename, Disk.rename, h.locate]
  refine .of_bind _ fun destination => ?_
  by_cases nameless : target.fileName?.isNone
  · simp only [nameless, if_true]
    exact .error _
  simp only [nameless, Bool.false_eq_true, if_false]
  rw [h.node?]
  cases b.node? source with
  | none => exact .error _
  | some node =>
    cases destination with
    | missing folder name =>
      simp only [h.allow]
      exact .of_bind _ fun _ => .ok ((h.erase _).put _ _)
    | existing place =>
      simp only [h.node?, h.allow]
      split_ifs
      · exact .error _
      · exact .of_bind _ fun _ => .ok ((h.erase _).put _ _)

theorem fillAndMove (h : Same a b) (temporary : Place) (target : Path) (bytes : List UInt8) :
    Agree Same (a.fillAndMove temporary target bytes) (b.fillAndMove temporary target bytes) := by
  rw [Disk.fillAndMove, Disk.fillAndMove, h.allow]
  refine .of_bind _ fun _ => ?_
  have filled := h.put temporary (.file { bytes := bytes })
  simp only [filled.allow]
  exact .of_bind _ fun _ => filled.rename temporary target

theorem replaceFile (h : Same a b) (target : Path) (bytes : List UInt8) :
    SameAnswer (a.replaceFile target bytes) (b.replaceFile target bytes) := by
  rw [Disk.replaceFile, Disk.replaceFile]
  split_ifs with long
  · exact .intro _ h
  have ways := h.makeDirectories target.parent.absolute target.parent.names.reverse
  generalize a.makeDirectories _ _ = x at ways ⊢
  generalize b.makeDirectories _ _ = y at ways ⊢
  cases ways with
  | @intro made made' outcome same =>
  cases outcome with
  | error fault => exact .intro _ same
  | ok =>
  have opens := same.makeTemporary target.parent
  simp only
  generalize made.makeTemporary _ = x at opens ⊢
  generalize made'.makeTemporary _ = y at opens ⊢
  cases opens with
  | error fault => exact .intro _ same
  | @ok x y opened =>
  obtain ⟨temporary, opened⟩ := x
  obtain ⟨_, opened'⟩ := y
  obtain ⟨rfl, same⟩ := opened
  have moves := same.fillAndMove temporary target bytes
  simp only at moves ⊢
  generalize opened.fillAndMove _ _ _ = x at moves ⊢
  generalize opened'.fillAndMove _ _ _ = y at moves ⊢
  cases moves with
  | error fault => exact .intro _ (same.erase temporary)
  | ok same => exact .intro _ same

end Same

end Disk

/-! ### Machines -/

/-- Two machines with the same disk, the same starts behind them, and programs that
behave in the same way on disks that are the same. -/
structure Host.Alike (a b : Host) : Prop where
  disk : a.disk.Same b.disk
  launches : a.launches = b.launches
  wording : a.wording = b.wording
  programs : ∀ {launch disk disk'}, disk.Same disk' →
    Disk.SameAnswer (a.launcher launch disk) (b.launcher launch disk')

/-- A start is answered in the same way, and the machines stay alike. -/
theorem Host.Alike.start {a b : Host} (h : a.Alike b) (launch : Launch) :
    (a.start launch).1 = (b.start launch).1 ∧ (a.start launch).2.Alike (b.start launch).2 := by
  have answers : Disk.SameAnswer (a.launcher launch a.disk) (b.launcher launch b.disk) :=
    h.programs h.disk
  rw [Host.start, Host.start]
  generalize a.launcher launch a.disk = x at answers ⊢
  generalize b.launcher launch b.disk = y at answers ⊢
  cases answers with
  | intro answer same => exact ⟨rfl, same, by rw [h.launches], h.wording, h.programs⟩

end DetectionMerge
