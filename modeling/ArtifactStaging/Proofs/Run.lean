/-
# ArtifactStaging.Proofs.Run -- runs, one step at a time

A run is put together from answers, failures, views, changes and runs in
sequence.  `Run.outcome` is pushed through each of these, so no later proof opens
the monad.  The `_ok_iff` lemmas read a run that answered backwards: what its
parts answered, and through which states; the `_error_iff` lemmas read one that failed.
-/
import ArtifactStaging.Proofs.Result
import ArtifactStaging.Staging.Uploader

set_option autoImplicit false

namespace ArtifactStaging

namespace Run

variable {σ ε δ α β : Type}

/-! ## Outcomes -/

@[simp] theorem outcome_pure (a : α) (s : σ) : (pure a : Run σ ε α).outcome s = (.ok a, s) := rfl

@[simp] theorem outcome_throw (e : ε) (s : σ) :
    (throw e : Run σ ε α).outcome s = (.error e, s) := rfl

@[simp] theorem outcome_ofFunction (step : σ → Except ε α × σ) (s : σ) :
    (ofFunction step).outcome s = step s := rfl

@[simp] theorem outcome_ofExcept (result : Except ε α) (s : σ) :
    (ofExcept result).outcome s = (result, s) := rfl

@[simp] theorem outcome_view (look : σ → α) (s : σ) :
    (view look : Run σ ε α).outcome s = (.ok (look s), s) := rfl

@[simp] theorem outcome_mapError (rename : ε → δ) (run : Run σ ε α) (s : σ) :
    (run.mapError rename).outcome s =
      ((run.outcome s).1.mapError rename, (run.outcome s).2) := rfl

@[simp] theorem outcome_attempt (run : Run σ ε α) (s : σ) :
    (run.attempt : Run σ δ (Except ε α)).outcome s =
      (.ok (run.outcome s).1, (run.outcome s).2) := rfl

@[simp] theorem outcome_lift (step : StateM σ α) (s : σ) :
    (liftM step : Run σ ε α).outcome s = (.ok (step s).1, (step s).2) := rfl

/-- A sequence goes on from where its first run answered, and stops where it failed. -/
theorem outcome_bind (run : Run σ ε α) (next : α → Run σ ε β) (s : σ) :
    (run >>= next).outcome s =
      match run.outcome s with
      | (.ok a, t) => (next a).outcome t
      | (.error e, t) => (.error e, t) := by
  change (ExceptT.bindCont next : Except ε α → StateM σ (Except ε β))
    (run.outcome s).1 (run.outcome s).2 = _
  cases run.outcome s with
  | mk result t => cases result <;> rfl

/-! ## Runs that answered -/

theorem outcome_eq_of_toOption {run : Run σ ε α} {s : σ} {a : α}
    (h : (run.outcome s).1.toOption = some a) : run.outcome s = (.ok a, (run.outcome s).2) := by
  cases hrun : run.outcome s with
  | mk result t => cases result <;> simp_all [Except.toOption]

theorem bind_ok_iff {run : Run σ ε α} {next : α → Run σ ε β} {s u : σ} {b : β} :
    (run >>= next).outcome s = (.ok b, u) ↔
      ∃ a t, run.outcome s = (.ok a, t) ∧ (next a).outcome t = (.ok b, u) := by
  rw [outcome_bind]
  cases run.outcome s with
  | mk result t =>
      cases result with
      | error e => simp
      | ok a => simp [and_assoc]

/-- A sequence fails where its first run does, or after it. -/
theorem bind_error_iff {run : Run σ ε α} {next : α → Run σ ε β} {s u : σ} {e : ε} :
    (run >>= next).outcome s = (.error e, u) ↔
      run.outcome s = (.error e, u) ∨
        ∃ a t, run.outcome s = (.ok a, t) ∧ (next a).outcome t = (.error e, u) := by
  rw [outcome_bind]
  cases run.outcome s with
  | mk result t =>
      cases result with
      | error e => simp
      | ok a => simp [and_assoc]

theorem pure_ok_iff {s t : σ} {a b : α} :
    (pure a : Run σ ε α).outcome s = (.ok b, t) ↔ b = a ∧ t = s := by
  simp [eq_comm]

theorem ofExcept_ok_iff {result : Except ε α} {s t : σ} {a : α} :
    (ofExcept result).outcome s = (.ok a, t) ↔ result = .ok a ∧ t = s := by
  simp [eq_comm]

theorem mapError_ok_iff {rename : ε → δ} {run : Run σ ε α} {s t : σ} {a : α} :
    (run.mapError rename).outcome s = (.ok a, t) ↔ run.outcome s = (.ok a, t) := by
  rw [outcome_mapError]
  cases hrun : run.outcome s with
  | mk result u => cases result <;> simp [Except.mapError]

end Run

namespace Submission

variable {σ α : Type}

/-- A run in the world answers in a submission as it does in the submission's world, and changes
nothing but the world. -/
theorem onWorld_ok_iff {run : Run σ StorageError α} {s t : Submission σ} {a : α} :
    (onWorld run).outcome s = (.ok a, t) ↔
      ∃ world, run.outcome s.world = (.ok a, world) ∧ t = { s with world } := by
  simp only [onWorld, Run.outcome_ofFunction]
  cases run.outcome s.world with
  | mk result world =>
      cases result with
      | error e => simp [Except.mapError]
      | ok b => simp [Except.mapError, and_assoc, eq_comm]

theorem onWorld_error_iff {run : Run σ StorageError α} {s t : Submission σ} {e : StagingError} :
    (onWorld run).outcome s = (.error e, t) ↔
      ∃ cause world, run.outcome s.world = (.error cause, world) ∧ e = .storage cause ∧
        t = { s with world } := by
  simp only [onWorld, Run.outcome_ofFunction]
  cases run.outcome s.world with
  | mk result world =>
      cases result with
      | error e => simp [Except.mapError, and_assoc, eq_comm]
      | ok b => simp [Except.mapError]

@[simp] theorem outcome_register (key : String) (resource : LocalResource) (s : Submission σ) :
    (register key resource).outcome s =
      (.ok (), { s with resources := (s.resources.register key resource).2 }) := rfl

@[simp] theorem outcome_ship {ε : Type} (descriptor : ArtifactDescriptor) (s : Submission σ) :
    (ship descriptor : Run (Submission σ) ε Unit).outcome s =
      (.ok (), { s with shipment := s.shipment.push descriptor }) := rfl

end Submission

end ArtifactStaging
