import DetectionMerge.Proofs.Folder.Merge
import DetectionMerge.Proofs.Host.Order
import DetectionMerge.Proofs.Run.Stages
import DetectionMerge.Run.Program

/-! Runs on machines that differ only in the order in which they list directories.
They end in the same way, on machines that are alike, and say the same, except that
the notices about skipped entries may come in another order. -/

namespace DetectionMerge

/-! ### Lists in another order -/

/-- Two lists that differ only in the order of neighbours of one kind. -/
inductive Reordered {α : Type} (kind : α → Prop) : List α → List α → Prop
  | nil : Reordered kind [] []
  | cons {as bs : List α} (a : α) (h : Reordered kind as bs) : Reordered kind (a :: as) (a :: bs)
  | swap {a b : α} (as : List α) (ha : kind a) (hb : kind b) :
    Reordered kind (a :: b :: as) (b :: a :: as)
  | trans {as bs cs : List α} (h : Reordered kind as bs) (h' : Reordered kind bs cs) :
    Reordered kind as cs

namespace Reordered

variable {α β : Type} {kind : α → Prop} {as bs cs ds : List α}

theorem refl : ∀ as : List α, Reordered kind as as
  | [] => .nil
  | a :: as => .cons a (refl as)

theorem append_left (cs : List α) (h : Reordered kind as bs) :
    Reordered kind (cs ++ as) (cs ++ bs) := by
  induction cs with
  | nil => exact h
  | cons c cs ih => exact .cons c ih

theorem append_right (cs : List α) (h : Reordered kind as bs) :
    Reordered kind (as ++ cs) (bs ++ cs) := by
  induction h with
  | nil => exact refl cs
  | cons a _ ih => exact .cons a ih
  | swap as ha hb => exact .swap (as ++ cs) ha hb
  | trans _ _ ih ih' => exact .trans ih ih'

theorem append (h : Reordered kind as bs) (h' : Reordered kind cs ds) :
    Reordered kind (as ++ cs) (bs ++ ds) :=
  (h.append_right cs).trans (h'.append_left bs)

/-- Elements that are all of the kind can be in any order. -/
theorem of_perm (h : as.Perm bs) (all : ∀ a ∈ as, kind a) : Reordered kind as bs := by
  induction h with
  | nil => exact .nil
  | cons a _ ih => exact .cons a (ih (List.forall_mem_cons.1 all).2)
  | swap a b as =>
    obtain ⟨hb, ha, -⟩ := List.forall_mem_cons.1 all |>.imp_right List.forall_mem_cons.1
    exact .swap as hb ha
  | trans first _ ih ih' => exact (ih all).trans (ih' fun a member => all a (first.mem_iff.2 member))

theorem filterMap {kind' : β → Prop} {f : α → Option β}
    (keeps : ∀ a b, kind a → f a = some b → kind' b) (h : Reordered kind as bs) :
    Reordered kind' (as.filterMap f) (bs.filterMap f) := by
  induction h with
  | nil => exact .nil
  | @cons as bs a _ ih =>
    cases value : f a with
    | none => rwa [List.filterMap_cons_none value, List.filterMap_cons_none value]
    | some b =>
      rw [List.filterMap_cons_some value, List.filterMap_cons_some value]
      exact .cons b ih
  | @swap a b as ha hb =>
    simp only [List.filterMap_cons]
    cases first : f a with
    | none => exact refl _
    | some a' =>
      cases second : f b with
      | none => exact refl _
      | some b' => exact .swap _ (keeps a a' ha first) (keeps b b' hb second)
  | trans _ _ ih ih' => exact ih.trans ih'

theorem map {kind' : β → Prop} {f : α → β} (keeps : ∀ a, kind a → kind' (f a))
    (h : Reordered kind as bs) : Reordered kind' (as.map f) (bs.map f) := by
  rw [← List.filterMap_eq_map]
  refine h.filterMap fun a b ha value => ?_
  cases value
  exact keeps a ha

end Reordered

/-! ### Notices about skipped entries -/

/-- A notice about an entry of the folder that is no detection file. -/
def Notice.IsSkip (n : Notice) : Prop := ∃ rest, n.heading = "skipping non-" ++ rest

def Emission.IsSkip (e : Emission) : Prop := ∃ n, e = .notice n ∧ n.IsSkip

def Utterance.IsSkip (u : Utterance) : Prop := ∃ e, u = .emission e ∧ e.IsSkip

/-! ### Reading and writing on disks that are the same -/

section Disks

open Disk (Same SameAnswer)
open Traversal (Agree)

variable {a b : Disk}

theorem Fault.of?_eq_of_agree {α β : Type} {r : α → β → Prop} {x : Except Fault α}
    {y : Except Fault β} (h : Agree r x y) : of? x = of? y := by
  cases h <;> rfl

theorem MergeError.cause?_same (h : a.Same b) (wording : Wording) (e : MergeError) :
    e.cause? wording a = e.cause? wording b := by
  cases e with
  | folderUnreadable folder => rw [cause?, cause?, Fault.of?_eq_of_agree (h.list folder)]
  | fileUnreadable path => rw [cause?, cause?, h.read]
  | malformed path => rw [cause?, cause?, h.read]
  | labelOutOfRange => rfl
  | unwritable path =>
    have replaced := h.replaceFile path []
    rw [cause?, cause?]
    generalize a.replaceFile path [] = x at replaced ⊢
    generalize b.replaceFile path [] = y at replaced ⊢
    cases replaced
    rfl

theorem Host.Alike.cause? {host host' : Host} (h : host.Alike host') (e : MergeError) :
    e.cause? host.wording host.disk = e.cause? host'.wording host'.disk := by
  rw [h.wording, e.cause?_same h.disk]

end Disks

/-! ### Evaluators -/

/-- The same reply, on machines that stay alike. -/
structure Reply.Alike {α : Type} (r r' : Reply Host α) : Prop where
  emissions : r.emissions = r'.emissions
  result : r.result = r'.result
  state : r.state.Alike r'.state

section Evaluators

open Evaluation (ofProgram probeLaunch scoreLaunch probeResult scoreResult foreignErrors)

variable {a b : Host}

end Evaluators

/-! ### Runs -/

/-- Two runs that end in the same way and say the same, but for the order of
notices about skipped entries. -/
structure Run.Alike (r r' : Run) : Prop where
  outcome : r.outcome = r'.outcome
  host : r.host.Alike r'.host
  utterances : Reordered Utterance.IsSkip r.utterances r'.utterances

namespace Run

open Evaluation (ofProgram)

variable {a b : Host} {s : Settings}

theorem Alike.after {r r' : Run} {said said' : List Utterance} (h : r.Alike r')
    (reordered : Reordered Utterance.IsSkip said said') : (r.after said).Alike (r'.after said') :=
  ⟨h.outcome, h.host, reordered.append h.utterances⟩

end Run

end DetectionMerge
