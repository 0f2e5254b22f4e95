/-
# ArtifactStaging.Storage.Disk -- storage on a local disk

A location that is not remote is the file at its path.  A remote location lies
beneath the root of the storage, at `<root>/<scheme>/<authority>/<path>`, with a
placeholder for an empty authority.

A disk cannot replicate, so a replication factor is only remembered.
-/
import ArtifactStaging.Storage.Basic

set_option autoImplicit false

namespace ArtifactStaging

/-- The files of a machine, and the replication factors asked for, latest first. -/
structure Disk where
  files : FileSystem
  replication : List (Location × UInt16)
deriving DecidableEq, Inhabited

namespace Disk

/-- The directory that stands for an empty authority. -/
def emptyAuthority : String := "_"

/-- The local path behind a location. -/
def resolve (root : String) (location : Location) : String :=
  match location.localPath? with
  | some path => path
  | none =>
      let authority :=
        if location.authority.isEmpty then emptyAuthority else location.authority
      let inner := String.ofList (location.path.toList.dropWhile (· == '/'))
      [location.scheme.getD "", authority, inner].foldl PathText.append root

/-- The replication factor last asked for. -/
def replicationOf (disk : Disk) (location : Location) : Option UInt16 :=
  disk.replication.lookup location

/-- What an entry shows of itself. -/
def statusOf (path : Location) (entry : Entry) : FileStatus :=
  ⟨path, UInt64.ofNat entry.size, entry.modified, entry.isDirectory⟩

/-- A result of the file system, as an answer about a path. -/
def answer {α : Type} (path : String) (result : Except IoCause α) : Except StorageError α :=
  result.mapError (StorageError.ofCause path)

/-- What is behind a location; none when nothing is there. -/
def probe (root : String) (disk : Disk) (location : Location) :
    Except StorageError (Option Entry) :=
  match disk.files.entry (resolve root location) with
  | .ok entry => .ok (some entry)
  | .error cause => if cause.isNotFound then .ok none else .error (.io location.render cause)

/-- The status of what is behind a location. -/
def stat (root : String) (disk : Disk) (location : Location) :
    Except StorageError FileStatus := do
  let entry ← answer location.render (disk.files.entry (resolve root location))
  .ok (statusOf location entry)

/-- The entries of the directory behind a location in order, links shown as links; for
anything else its own status. -/
def listStatus (root : String) (disk : Disk) (location : Location) :
    Except StorageError (List FileStatus) := do
  let (place, entry) ← answer location.render (disk.files.locate (resolve root location))
  if entry.isDirectory then
    let statuses := (disk.files.tree.children place).map fun (name, entry) =>
      statusOf (location.join name.lossy) entry
    .ok (statuses.mergeSort fun a b => Location.le a.path b.path)
  else .ok [statusOf location entry]

/-- Whether a recursive listing shows what `path` leads to: a regular file, or a link to
one. -/
def lists (files : FileSystem) (path : RawText) : Entry → Bool
  | .file .. => true
  | .link .. => files.isFile path
  | _ => false

/-- The files beneath the directory behind a location, and the links to files; for anything
else its own status.  A path that is no text shows itself with replacement characters. -/
def listFiles (root : String) (disk : Disk) (location : Location) :
    Except StorageError (List FileStatus) := do
  let base := resolve root location
  let (place, entry) ← answer location.render (disk.files.locate base)
  if entry.isDirectory then
    let files := (disk.files.tree.beneath place).filterMap fun (names, entry) =>
      let path := RawText.down base names
      if lists disk.files path entry then some (location.join (RawText.join names).lossy, path)
      else none
    files.mapM fun (child, path) => do
      let entry ← answer child.render (disk.files.entry path)
      .ok (statusOf child entry)
  else .ok [statusOf location entry]

/-- Copy a local file to a location: first the directories above it, then the file, then, if
asked, the source goes. -/
def copyFromLocal (root : String) (source : String) (destination : Location)
    (overwrite deleteSource : Bool) (disk : Disk) : Except StorageError Unit × Disk :=
  let target := resolve root destination
  if !overwrite && disk.files.pathExists target then
    (.error (.io destination.render .destinationExists), disk)
  else
    let (files, made) := match PathText.parent? target with
      | some parent => disk.files.createDirectories parent
      | none => (disk.files, .ok ())
    let disk := { disk with files }
    match made with
    | .error cause => (.error (StorageError.ofCause destination.render cause), disk)
    | .ok () =>
        match files.copy source target with
        | .error cause => (.error (StorageError.ofCause source cause), disk)
        | .ok files =>
            let disk := { disk with files }
            if deleteSource then
              match files.removeFile source with
              | .error cause => (.error (StorageError.ofCause source cause), disk)
              | .ok files => (.ok (), { disk with files })
            else (.ok (), disk)

/-- Remember a replication factor for what is at a location. -/
def setReplication (root : String) (location : Location) (factor : UInt16) (disk : Disk) :
    Except StorageError Unit × Disk :=
  match disk.probe root location with
  | .error error => (.error error, disk)
  | .ok none => (.error (.notFound location.render), disk)
  | .ok (some _) =>
      (.ok (), { disk with replication := (location, factor) :: disk.replication })

/-- Make a directory at a location and those above it, and set its permission bits. -/
def makeDirectories (root : String) (location : Location) (permission : Permission)
    (disk : Disk) : Except StorageError Unit × Disk :=
  let target := resolve root location
  let (files, made) := disk.files.createDirectories target
  let disk := { disk with files }
  match made with
  | .error cause => (.error (StorageError.ofCause location.render cause), disk)
  | .ok () =>
      match files.setMode target permission.mode with
      | .error cause => (.error (StorageError.ofCause location.render cause), disk)
      | .ok files => (.ok (), { disk with files })

/-- The storage on a disk beneath a root. -/
def storage (root : String) : Storage Disk where
  pathExists location := .ofFunction fun disk =>
    ((disk.probe root location).map Option.isSome, disk)
  isDirectory location := .ofFunction fun disk =>
    ((disk.probe root location).map (·.any Entry.isDirectory), disk)
  stat location := .ofFunction fun disk => (disk.stat root location, disk)
  listStatus location := .ofFunction fun disk => (disk.listStatus root location, disk)
  listFiles location := .ofFunction fun disk => (disk.listFiles root location, disk)
  copyFromLocal source destination overwrite deleteSource :=
    .ofFunction (copyFromLocal root source destination overwrite deleteSource)
  setReplication location factor := .ofFunction (setReplication root location factor)
  makeDirectories location permission := .ofFunction (makeDirectories root location permission)

/-- A machine whose pauses take no time of the model. -/
def host (root : String) : Host Disk where
  storage := storage root
  files disk := disk.files
  pause _ := pure true

end Disk

end ArtifactStaging
