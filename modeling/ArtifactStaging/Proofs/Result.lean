/-
# ArtifactStaging.Proofs.Result -- results read backwards

What the parts of a computation answered, when the whole of it answered.
-/
import Mathlib.Data.List.Forall2

set_option autoImplicit false

namespace ArtifactStaging

namespace Except

variable {ε δ α β : Type}

theorem mapError_ok_iff {rename : ε → δ} {result : Except ε α} {a : α} :
    result.mapError rename = .ok a ↔ result = .ok a := by
  cases result <;> simp [Except.mapError]

theorem map_ok_iff {f : α → β} {result : Except ε α} {b : β} :
    result.map f = .ok b ↔ ∃ a, result = .ok a ∧ f a = b := by
  cases result <;> simp [Except.map]

theorem bind_ok_iff {result : Except ε α} {next : α → Except ε β} {b : β} :
    (result >>= next) = .ok b ↔ ∃ a, result = .ok a ∧ next a = .ok b := by
  cases result <;> simp [bind, Except.bind]

theorem ok_bind (a : α) (next : α → Except ε β) : (Except.ok a >>= next) = next a := rfl

theorem throw_bind (e : ε) (next : α → Except ε β) :
    ((throw e : Except ε α) >>= next) = .error e := rfl

theorem error_ite_ok_iff {refused : Prop} [Decidable refused] {e : ε} {result : Except ε α}
    {a : α} : (if refused then .error e else result) = .ok a ↔ ¬ refused ∧ result = .ok a := by
  split <;> simp_all

/-- A list is read element by element. -/
theorem mapM_ok_iff {read : α → Except ε β} {xs : List α} {ys : List β} :
    xs.mapM read = .ok ys ↔ List.Forall₂ (fun x y => read x = .ok y) xs ys := by
  induction xs generalizing ys with
  | nil => simp [pure, Except.pure, eq_comm]
  | cons x xs ih =>
      simp only [List.mapM_cons, bind_ok_iff, ih, List.forall₂_cons_left_iff]
      constructor
      · rintro ⟨y, first, rest, others, heq⟩
        cases heq
        exact ⟨y, rest, first, others, rfl⟩
      · rintro ⟨y, rest, first, others, rfl⟩
        exact ⟨y, first, rest, others, rfl⟩

theorem mem_of_mapM_ok {read : α → Except ε β} {xs : List α} {ys : List β}
    (h : xs.mapM read = .ok ys) {y : β} : y ∈ ys ↔ ∃ x ∈ xs, read x = .ok y := by
  induction mapM_ok_iff.1 h with
  | nil => simp
  | cons first others ih => simp [ih (mapM_ok_iff.2 others), first, eq_comm]

theorem ok_of_mapM_ok {read : α → Except ε β} {xs : List α} {ys : List β}
    (h : xs.mapM read = .ok ys) {x : α} (hx : x ∈ xs) : ∃ y, read x = .ok y := by
  induction mapM_ok_iff.1 h with
  | nil => cases hx
  | cons first others ih =>
      rcases List.mem_cons.1 hx with rfl | hx
      · exact ⟨_, first⟩
      · exact ih (mapM_ok_iff.2 others) hx

theorem exists_mapM_ok {read : α → Except ε β} {xs : List α} (h : ∀ x ∈ xs, ∃ y, read x = .ok y) :
    ∃ ys, xs.mapM read = .ok ys := by
  induction xs with
  | nil => exact ⟨[], rfl⟩
  | cons x xs ih =>
      obtain ⟨⟨y, first⟩, others⟩ := List.forall_mem_cons.1 h
      obtain ⟨ys, rest⟩ := ih others
      exact ⟨y :: ys, mapM_ok_iff.2 (.cons first (mapM_ok_iff.1 rest))⟩

end Except

end ArtifactStaging
