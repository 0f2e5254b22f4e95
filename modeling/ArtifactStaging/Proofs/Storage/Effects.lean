/-
# ArtifactStaging.Proofs.Storage.Effects -- which changes a run asks storage for

Three of the eight operations of storage can change what is stored (`Change`); the other
five look, and a pause waits.  `Effects host changes s t` says that a host gets from one
state to another by the given changes, in order, with any number of looks and pauses before,
between and after them.

What that comes to depends on the host.

* One that looking leaves alone, as a disk, stays the same when nothing is changed
  (`Effects.eq_of_steady`).
* A rehearsal, whatever its script answers, has written down the changes in order, and no
  other (`Rehearsal.changes_of_effects`).

The runs that only look (`Run.Looks`) are closed under all that runs are put together from.
-/
import ArtifactStaging.Proofs.Run
import ArtifactStaging.Storage.Disk
import ArtifactStaging.Storage.Script

set_option autoImplicit false

namespace ArtifactStaging

variable {σ : Type}

/-! ## Changes and looks -/

/-- A call of storage that can change what is stored. -/
inductive Change where
  | copyFromLocal (source : String) (destination : Location) (overwrite deleteSource : Bool)
  | setReplication (path : Location) (factor : UInt16)
  | makeDirectories (path : Location) (permission : Permission)
deriving DecidableEq, Repr

/-- The call itself. -/
def Change.call (host : Host σ) : Change → Run σ StorageError Unit
  | .copyFromLocal source destination overwrite deleteSource =>
      host.storage.copyFromLocal source destination overwrite deleteSource
  | .setReplication path factor => host.storage.setReplication path factor
  | .makeDirectories path permission => host.storage.makeDirectories path permission

/-- What one look at storage, or one pause, leaves behind. -/
inductive Look (host : Host σ) (s : σ) : σ → Prop
  | pathExists (path : Location) : Look host s ((host.storage.pathExists path).outcome s).2
  | isDirectory (path : Location) : Look host s ((host.storage.isDirectory path).outcome s).2
  | stat (path : Location) : Look host s ((host.storage.stat path).outcome s).2
  | listStatus (path : Location) : Look host s ((host.storage.listStatus path).outcome s).2
  | listFiles (path : Location) : Look host s ((host.storage.listFiles path).outcome s).2
  | pause (delay : UInt64) : Look host s (host.pause delay s).2

/-- A host gets from one state to another by some changes in order, and by looks. -/
inductive Effects (host : Host σ) : List Change → σ → σ → Prop
  | refl (s : σ) : Effects host [] s s
  | look {changes : List Change} {s t u : σ} (first : Look host s t)
      (others : Effects host changes t u) : Effects host changes s u
  | change {changes : List Change} {s u : σ} (first : Change)
      (others : Effects host changes ((first.call host).outcome s).2 u) :
      Effects host (first :: changes) s u

namespace Effects

variable {host : Host σ} {changes more : List Change} {s t u : σ}

theorem append (h : Effects host changes s t) (h' : Effects host more t u) :
    Effects host (changes ++ more) s u := by
  induction h with
  | refl s => exact h'
  | look first others ih => exact .look first (ih h')
  | change first others ih => exact .change first (ih h')

theorem of_look (h : Look host s t) : Effects host [] s t := .look h (.refl t)

theorem of_change (change : Change) :
    Effects host [change] s ((change.call host).outcome s).2 := .change change (.refl _)

end Effects

/-! ## Hosts that looking leaves alone -/

/-- Looks and pauses leave no trace in the state of the host. -/
def Host.Steady (host : Host σ) : Prop := ∀ s t, Look host s t → t = s

theorem Effects.eq_of_steady {host : Host σ} {s t : σ} (steady : host.Steady)
    (h : Effects host [] s t) : t = s := by
  generalize hchanges : ([] : List Change) = changes at h
  induction h with
  | refl s => rfl
  | look first others ih => exact (ih hchanges).trans (steady _ _ first)
  | change first others ih => cases hchanges

/-- Looking leaves a disk alone. -/
theorem Disk.steady (root : String) : (Disk.host root).Steady := by
  intro s t h
  cases h <;> rfl

/-! ## Runs -/

namespace Run

variable {ε δ α β : Type} {host : Host σ} {run : Run σ ε α} {next : α → Run σ ε β}
  {changes more : List Change} {s : σ}

/-- A sequence asks for the changes of its first run, and where that answers, for those of the
rest as well. -/
theorem effects_bind (first : Effects host changes s (run.outcome s).2)
    (others : ∀ a t, Effects host more t ((next a).outcome t).2) :
    (∃ e, ((run >>= next).outcome s).1 = .error e ∧
        Effects host changes s ((run >>= next).outcome s).2) ∨
      Effects host (changes ++ more) s ((run >>= next).outcome s).2 := by
  rw [outcome_bind]
  cases hrun : run.outcome s with
  | mk result t =>
  rw [hrun] at first
  cases result with
  | error e => exact .inl ⟨e, rfl, first⟩
  | ok a => exact .inr (first.append (others a t))

/-- However the run ends, it asks for no change. -/
def Looks (host : Host σ) (run : Run σ ε α) : Prop :=
  ∀ s, Effects host [] s (run.outcome s).2

/-- A sequence asks for the changes of its first run, if the rest looks. -/
theorem effects_bind_looks (first : Effects host changes s (run.outcome s).2)
    (others : ∀ a, Looks host (next a)) :
    Effects host changes s ((run >>= next).outcome s).2 := by
  rcases effects_bind first others with ⟨-, -, asked⟩ | asked
  · exact asked
  · rwa [List.append_nil] at asked

namespace Looks

theorem pure (a : α) : Looks host (Pure.pure a : Run σ ε α) := fun s => .refl s

theorem throw (e : ε) : Looks host (MonadExcept.throw e : Run σ ε α) := fun s => .refl s

theorem ofExcept (result : Except ε α) : Looks host (Run.ofExcept result) := fun s => .refl s

theorem view (look : σ → α) : Looks host (Run.view look : Run σ ε α) := fun s => .refl s

theorem bind (first : Looks host run) (others : ∀ a, Looks host (next a)) :
    Looks host (run >>= next) := fun s => effects_bind_looks (first s) others

theorem attempt (h : Looks host run) : Looks host (run.attempt : Run σ δ (Except ε α)) := h

theorem isDirectory (path : Location) : Looks host (host.storage.isDirectory path) :=
  fun _ => .of_look (.isDirectory path)

theorem stat (path : Location) : Looks host (host.storage.stat path) :=
  fun _ => .of_look (.stat path)

theorem listStatus (path : Location) : Looks host (host.storage.listStatus path) :=
  fun _ => .of_look (.listStatus path)

theorem listFiles (path : Location) : Looks host (host.storage.listFiles path) :=
  fun _ => .of_look (.listFiles path)

theorem pause (delay : UInt64) :
    Looks host (liftM (host.pause delay) : Run σ ε Bool) :=
  fun _ => .of_look (.pause delay)

end Looks

end Run

open Run

/-- Waiting for a listing looks. -/
theorem Listing.awaitWithin_looks (host : Host σ) (delay : UInt64) (path : Location)
    (attempts : Nat) : Looks host (awaitWithin host delay path attempts) := by
  induction attempts with
  | zero => exact .pure none
  | succ attempts ih =>
      refine (Looks.listStatus path).attempt.bind fun answer => ?_
      cases verdict answer with
      | shown statuses => exact .pure (some statuses)
      | failed error => exact .throw error
      | notYet =>
          dsimp only
          split
          · exact (Looks.pause delay).bind fun _ => ih
          · exact ih

theorem Plan.ofInput_looks (host : Host σ) (logicalRoot : String) (input : Location) :
    Looks host (ofInput host logicalRoot input) := by
  unfold ofInput
  split
  · exact (Looks.view host.files).bind fun _ => .ofExcept _
  · refine (Looks.isDirectory input).bind fun found => ?_
    split
    · exact (Looks.listFiles input).bind fun _ => .pure _
    · exact .pure _

/-- Planning looks. -/
theorem Plan.ofInputs_looks (host : Host σ) (logicalRoot : String) (inputs : List Location) :
    Looks host (ofInputs host logicalRoot inputs) := by
  induction inputs with
  | nil => exact .pure []
  | cons input rest ih =>
      exact (Plan.ofInput_looks host logicalRoot input).bind fun _ => ih.bind fun _ => .pure _

/-! ## Rehearsals -/

/-- The change that was written down, if it is one. -/
def StorageNote.change? : StorageNote → Option Change
  | .listStatus _ => none
  | .copyFromLocal source destination overwrite deleteSource =>
      some (.copyFromLocal source destination overwrite deleteSource)
  | .setReplication path factor => some (.setReplication path factor)
  | .makeDirectories path permission => some (.makeDirectories path permission)

namespace Rehearsal

/-- The changes that a rehearsal was asked for, in order. -/
def changes (rehearsal : Rehearsal σ) : List Change :=
  rehearsal.notes.reverse.filterMap StorageNote.change?

/-- Whatever the script answers, a call is written down once. -/
theorem notes_play {α : Type} (call : StorageCall) (path : Location) (note : Option StorageNote)
    (ofListing : List FileStatus → Option α) (run : Run σ StorageError α)
    (rehearsal : Rehearsal σ) :
    ((play call path note ofListing run).outcome rehearsal).2.notes =
      note.toList ++ rehearsal.notes := by
  simp only [play, passOn, Run.outcome_ofFunction]
  split
  · rfl
  · split <;> rfl
  · split <;> rfl

variable {behind : Host σ} {rehearsal next : Rehearsal σ}

theorem changes_of_look (h : Look (host behind) rehearsal next) :
    next.changes = rehearsal.changes := by
  cases h <;> simp [changes, host, storage, notes_play, StorageNote.change?]

theorem changes_of_change (change : Change) :
    ((change.call (host behind)).outcome rehearsal).2.changes = rehearsal.changes ++ [change] := by
  cases change <;>
    simp [Change.call, changes, host, storage, notes_play, StorageNote.change?]

/-- A rehearsal writes down the changes that it is asked for, in order. -/
theorem changes_of_effects {asked : List Change}
    (h : Effects (host behind) asked rehearsal next) :
    next.changes = rehearsal.changes ++ asked := by
  induction h with
  | refl s => simp
  | look first others ih => rw [ih, changes_of_look first]
  | change first others ih =>
      rw [ih, changes_of_change]
      simp

end Rehearsal

end ArtifactStaging
