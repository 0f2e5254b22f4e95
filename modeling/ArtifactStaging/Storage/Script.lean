/-
# ArtifactStaging.Storage.Script -- storage that follows a script

For rehearsals: a storage in front of another that counts the calls of each
operation, writes down those that list or change something, and answers a call
by the first fault of its script that names it instead of passing it on.  Pauses
are written down as well and can be cut short by number.
-/
import ArtifactStaging.Storage.Basic

set_option autoImplicit false

namespace ArtifactStaging

/-- An operation of storage. -/
inductive StorageCall where
  | pathExists
  | isDirectory
  | stat
  | listStatus
  | listFiles
  | copyFromLocal
  | setReplication
  | makeDirectories
deriving DecidableEq, Repr

namespace StorageCall

/-- The name of an operation. -/
def name : StorageCall → String
  | .pathExists => "exists"
  | .isDirectory => "is_directory"
  | .stat => "stat"
  | .listStatus => "list_status"
  | .listFiles => "list_files_recursive"
  | .copyFromLocal => "copy_from_local"
  | .setReplication => "set_replication"
  | .makeDirectories => "mkdirs"

/-- Every operation. -/
def all : List StorageCall :=
  [.pathExists, .isDirectory, .stat, .listStatus, .listFiles, .copyFromLocal, .setReplication,
    .makeDirectories]

end StorageCall

/-- What a fault answers. -/
inductive FaultAnswer where
  | notFound
  | gone
  | permissionDenied
  | unsupported
  | invalidPath
  /-- A listing made up for the occasion. -/
  | listing (statuses : List FileStatus)
deriving DecidableEq, Repr

/-- An answer in place of one call of an operation, or of every call. -/
structure ScriptedFault where
  call : StorageCall
  nth : Option Nat
  answer : FaultAnswer
deriving DecidableEq, Repr

/-- A call that was written down. -/
inductive StorageNote where
  | listStatus (path : Location)
  | copyFromLocal (source : String) (destination : Location) (overwrite deleteSource : Bool)
  | setReplication (path : Location) (factor : UInt16)
  | makeDirectories (path : Location) (permission : Permission)
deriving DecidableEq, Repr

/-- The state behind a scripted storage. -/
structure Rehearsal (σ : Type) where
  inner : σ
  faults : List ScriptedFault
  /-- The pauses, by number, that are cut short. -/
  interrupts : List Nat
  /-- Every call so far, latest first. -/
  calls : List StorageCall
  /-- What was written down, latest first. -/
  notes : List StorageNote
  /-- The pauses so far in milliseconds, latest first. -/
  waits : List UInt64
deriving Inhabited

namespace Rehearsal

variable {σ : Type}

/-- A rehearsal that has not begun. -/
def start (inner : σ) (faults : List ScriptedFault) (interrupts : List Nat) : Rehearsal σ :=
  ⟨inner, faults, interrupts, [], [], []⟩

/-- How often an operation was called. -/
def timesCalled (rehearsal : Rehearsal σ) (call : StorageCall) : Nat := rehearsal.calls.count call

/-- The answer of the script to the call just counted. -/
def scripted? (rehearsal : Rehearsal σ) (call : StorageCall) : Option FaultAnswer :=
  let number := rehearsal.timesCalled call
  (rehearsal.faults.find? fun fault =>
    fault.call == call && fault.nth.all (· == number)).map ScriptedFault.answer

/-- The error that a fault answers at a path. -/
def errorOf (call : StorageCall) (path : String) : FaultAnswer → Option StorageError
  | .notFound => some (.notFound path)
  | .gone => some (.ofCause path (.absent "gone"))
  | .permissionDenied => some (.ofCause path (.other "permission denied"))
  | .unsupported => some (.unsupported call.name path)
  | .invalidPath => some (.invalidPath path)
  | .listing _ => none

/-- Pass a run on to the storage behind. -/
def passOn {ε α : Type} (run : Run σ ε α) : Run (Rehearsal σ) ε α :=
  .ofFunction fun rehearsal =>
    let (result, inner) := run.outcome rehearsal.inner
    (result, { rehearsal with inner })

/-- Count a call, write it down, and answer by the script or pass it on. -/
def play {α : Type} (call : StorageCall) (path : Location) (note : Option StorageNote)
    (ofListing : List FileStatus → Option α) (run : Run σ StorageError α) :
    Run (Rehearsal σ) StorageError α :=
  .ofFunction fun rehearsal =>
    let rehearsal :=
      { rehearsal with calls := call :: rehearsal.calls, notes := note.toList ++ rehearsal.notes }
    match rehearsal.scripted? call with
    | none => (passOn run).outcome rehearsal
    | some (.listing statuses) =>
        match ofListing statuses with
        | some answer => (.ok answer, rehearsal)
        | none => (passOn run).outcome rehearsal
    | some answer =>
        match errorOf call path.render answer with
        | some error => (.error error, rehearsal)
        | none => (passOn run).outcome rehearsal

/-- The scripted storage in front of another. -/
def storage (behind : Storage σ) : Storage (Rehearsal σ) where
  pathExists path := play .pathExists path none (fun _ => none) (behind.pathExists path)
  isDirectory path := play .isDirectory path none (fun _ => none) (behind.isDirectory path)
  stat path := play .stat path none (fun _ => none) (behind.stat path)
  listStatus path :=
    play .listStatus path (some (.listStatus path)) some (behind.listStatus path)
  listFiles path := play .listFiles path none some (behind.listFiles path)
  copyFromLocal source destination overwrite deleteSource :=
    play .copyFromLocal destination
      (some (.copyFromLocal source destination overwrite deleteSource)) (fun _ => none)
      (behind.copyFromLocal source destination overwrite deleteSource)
  setReplication path factor :=
    play .setReplication path (some (.setReplication path factor)) (fun _ => none)
      (behind.setReplication path factor)
  makeDirectories path permission :=
    play .makeDirectories path (some (.makeDirectories path permission)) (fun _ => none)
      (behind.makeDirectories path permission)

/-- The host of a rehearsal on another. -/
def host (behind : Host σ) : Host (Rehearsal σ) where
  storage := storage behind.storage
  files rehearsal := behind.files rehearsal.inner
  pause duration := fun rehearsal =>
    let number := rehearsal.waits.length + 1
    (!rehearsal.interrupts.contains number,
      { rehearsal with waits := duration :: rehearsal.waits })

end Rehearsal

end ArtifactStaging
