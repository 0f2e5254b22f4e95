/-
# ArtifactStaging.Storage.Basic -- what staging asks of storage

A storage is eight operations over a state.  An operation answers or fails, and
in both cases leaves a state: a failure may come after a change.

A `Host` is what a submission runs on: a storage, the local files beside it, and
a way to pause.
-/
import ArtifactStaging.FileSystem.Basic
import ArtifactStaging.Storage.Error
import ArtifactStaging.Storage.Status

set_option autoImplicit false

namespace ArtifactStaging

/-- A run over a state that may fail and keeps the state it reached. -/
abbrev Run (σ ε α : Type) := ExceptT ε (StateM σ) α

namespace Run

/-- The outcome and the state reached. -/
def outcome {σ ε α : Type} (run : Run σ ε α) (state : σ) : Except ε α × σ :=
  StateT.run (ExceptT.run run) state

/-- A run from what it does to the state. -/
def ofFunction {σ ε α : Type} (step : σ → Except ε α × σ) : Run σ ε α :=
  ExceptT.mk step

/-- A result that needs no state. -/
def ofExcept {σ ε α : Type} (result : Except ε α) : Run σ ε α :=
  ofFunction fun state => (result, state)

/-- A view of the state. -/
def view {σ ε α : Type} (look : σ → α) : Run σ ε α :=
  ofFunction fun state => (.ok (look state), state)

/-- The same run with its failures renamed. -/
def mapError {σ ε δ α : Type} (rename : ε → δ) (run : Run σ ε α) : Run σ δ α :=
  ofFunction fun state =>
    let (result, state) := run.outcome state
    (result.mapError rename, state)

/-- The result of a run, its failure included. -/
def attempt {σ ε δ α : Type} (run : Run σ ε α) : Run σ δ (Except ε α) :=
  ofFunction fun state =>
    let (result, state) := run.outcome state
    (.ok result, state)

end Run

/-- A storage over states `σ`. -/
structure Storage (σ : Type) where
  /-- Whether anything is at a path. -/
  pathExists : Location → Run σ StorageError Bool
  /-- Whether a directory is at a path. -/
  isDirectory : Location → Run σ StorageError Bool
  /-- What is at a path. -/
  stat : Location → Run σ StorageError FileStatus
  /-- What is in a directory, or the file itself. -/
  listStatus : Location → Run σ StorageError (List FileStatus)
  /-- Every file beneath a path. -/
  listFiles : Location → Run σ StorageError (List FileStatus)
  /-- Copy the local file at a path into storage. -/
  copyFromLocal : (source : String) → (destination : Location) → (overwrite : Bool) →
    (deleteSource : Bool) → Run σ StorageError Unit
  /-- Ask for so many copies of what is at a path. -/
  setReplication : Location → UInt16 → Run σ StorageError Unit
  /-- Make a directory and those above it. -/
  makeDirectories : Location → Permission → Run σ StorageError Unit

/-- What a submission runs on. -/
structure Host (σ : Type) where
  storage : Storage σ
  /-- The local files. -/
  files : σ → FileSystem
  /-- Pause for so many milliseconds; false when the pause was cut short. -/
  pause : UInt64 → StateM σ Bool

end ArtifactStaging
