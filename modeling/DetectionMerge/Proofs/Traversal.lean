import Mathlib.Data.List.Forall2
import Mathlib.Tactic

/-! Functions that may fail, applied to a whole list. All elements succeed, or
the first one that fails decides the outcome, whatever follows it. -/

namespace DetectionMerge.Traversal

variable {α β ε : Type}

/-- What stands on the right of a relation along two lists is related to something. -/
theorem exists_mem_of_forall₂ {r : α → β → Prop} {as : List α} {bs : List β} {b : β}
    (h : List.Forall₂ r as bs) (member : b ∈ bs) : ∃ a ∈ as, r a b := by
  induction h with
  | nil => cases member
  | @cons a b' as bs head _ ih =>
    rcases List.mem_cons.1 member with rfl | member
    · exact ⟨a, List.mem_cons_self, head⟩
    · obtain ⟨a', among, related⟩ := ih member
      exact ⟨a', List.mem_cons_of_mem _ among, related⟩

/-! ### Functions without an error value -/

section Option

variable {f : α → Option β} {as : List α}

theorem mapM_eq_some_iff {bs : List β} :
    as.mapM f = some bs ↔ List.Forall₂ (fun a b => f a = some b) as bs := by
  induction as generalizing bs with
  | nil => simp [eq_comm]
  | cons a as ih =>
    rw [List.mapM_cons, List.forall₂_cons_left_iff]
    cases head : f a with
    | none => simp
    | some b =>
      cases tail : as.mapM f with
      | none => simp [← ih, tail]
      | some bs' => simp [← ih, tail, eq_comm]

theorem mapM_eq_none_iff : as.mapM f = none ↔ ∃ a ∈ as, f a = none := by
  induction as with
  | nil => simp
  | cons a as ih =>
    rw [List.mapM_cons, List.exists_mem_cons_iff, ← ih]
    cases head : f a with
    | none => simp
    | some b => cases tail : as.mapM f <;> simp

end Option

/-! ### The first element of a kind -/

/-- The first element of a kind is the head, or the head is of the other kind and
it is the first one of the tail. -/
theorem exists_first_cons {P Q : α → Prop} {a : α} {as : List α} :
    (∃ before x after, a :: as = before ++ x :: after ∧ (∀ y ∈ before, P y) ∧ Q x) ↔
      Q a ∨ P a ∧ ∃ before x after, as = before ++ x :: after ∧ (∀ y ∈ before, P y) ∧ Q x := by
  constructor
  · rintro ⟨before, x, after, split, others, first⟩
    cases before with
    | nil =>
      obtain ⟨rfl, rfl⟩ := List.cons.inj split
      exact .inl first
    | cons y before =>
      obtain ⟨rfl, rfl⟩ := List.cons.inj split
      obtain ⟨head, others⟩ := List.forall_mem_cons.1 others
      exact .inr ⟨head, before, x, after, rfl, others, first⟩
  · rintro (first | ⟨head, before, x, after, rfl, others, first⟩)
    · exact ⟨[], a, as, rfl, List.forall_mem_nil _, first⟩
    · exact ⟨a :: before, x, after, rfl, List.forall_mem_cons.2 ⟨head, others⟩, first⟩

/-! ### Functions with an error value -/

section Except

variable {f : α → Except ε β} {as : List α}

theorem bind_eq_ok_iff {x : Except ε α} {g : α → Except ε β} {b : β} :
    (x >>= g) = .ok b ↔ ∃ a, x = .ok a ∧ g a = .ok b := by
  cases x <;> simp [bind, Except.bind]

theorem mapM_eq_ok_iff {bs : List β} :
    as.mapM f = .ok bs ↔ List.Forall₂ (fun a b => f a = .ok b) as bs := by
  induction as generalizing bs with
  | nil => simp [pure, Except.pure, eq_comm]
  | cons a as ih =>
    rw [List.mapM_cons, List.forall₂_cons_left_iff]
    cases head : f a with
    | error e => simp [bind, Except.bind]
    | ok b =>
      cases tail : as.mapM f with
      | error e => simp [bind, Except.bind, ← ih, tail]
      | ok bs' => simp [bind, Except.bind, pure, Except.pure, ← ih, tail, eq_comm]

theorem mapM_eq_error_iff {e : ε} :
    as.mapM f = .error e ↔
      ∃ before a after, as = before ++ a :: after ∧ (∀ x ∈ before, ∃ b, f x = .ok b) ∧
        f a = .error e := by
  induction as with
  | nil => simp [pure, Except.pure]
  | cons a as ih =>
    rw [List.mapM_cons, exists_first_cons, ← ih]
    cases head : f a with
    | error e' => simp [bind, Except.bind]
    | ok b => cases tail : as.mapM f <;> simp [bind, Except.bind, pure, Except.pure]

/-- Two outcomes are the same error, or results that are related. -/
inductive Agree {α β ε : Type} (r : α → β → Prop) : Except ε α → Except ε β → Prop
  | ok {a : α} {b : β} (h : r a b) : Agree r (.ok a) (.ok b)
  | error (e : ε) : Agree r (.error e) (.error e)

/-- What is done after the same beginning is related as it is on every result. -/
theorem Agree.of_bind {γ δ : Type} {r : γ → δ → Prop} (x : Except ε α) {f : α → Except ε γ}
    {g : α → Except ε δ} (next : ∀ a, Agree r (f a) (g a)) : Agree r (x >>= f) (x >>= g) := by
  cases x with
  | ok a => exact next a
  | error e => exact .error e

end Except

end DetectionMerge.Traversal
