/-
# ArtifactStaging.Staging.Uploader -- staging for one application

An uploader owns the directory of one application.  Opening it makes the
directory, for its owner only, unless something is there already, and indexes the
shared libraries.

Registering an artifact decides between three cases.

* One that is remote is referred to where it is.
* One with the name of a shared library is replaced by that library; nothing is
  registered for it, since the shared libraries are registered by themselves.
* Any other is copied into the application's directory.  Its record shows the
  time that storage shows, or the local one when storage never shows it.

Bulk registration expands its inputs to a plan, leaves out the distribution
bundle, registers every other file under its destination and answers the
classpath of those that were not replaced.  What was registered before a failure
stays registered.
-/
import ArtifactStaging.ResourceTable
import ArtifactStaging.Staging.Classpath
import ArtifactStaging.Staging.Listing

set_option autoImplicit false

namespace ArtifactStaging

/-- How one artifact was registered. -/
inductive Registration where
  | alreadyRemote (descriptor : ArtifactDescriptor)
  | reusedShared (descriptor : ArtifactDescriptor)
  | uploaded (descriptor : ArtifactDescriptor)
deriving DecidableEq, Repr

namespace Registration

/-- The artifact. -/
def descriptor : Registration → ArtifactDescriptor
  | .alreadyRemote descriptor => descriptor
  | .reusedShared descriptor => descriptor
  | .uploaded descriptor => descriptor

/-- Whether the application's table has the artifact. -/
def isPrivate : Registration → Bool
  | .reusedShared _ => false
  | _ => true

end Registration

/-- The artifacts that were shipped, in order, and where each of them is. -/
structure Shipment where
  remotePaths : List Location
  descriptors : List ArtifactDescriptor
deriving DecidableEq, Repr, Inhabited

namespace Shipment

/-- Nothing shipped. -/
def empty : Shipment := ⟨[], []⟩

/-- One more artifact. -/
def push (shipment : Shipment) (descriptor : ArtifactDescriptor) : Shipment where
  remotePaths := shipment.remotePaths ++ [descriptor.path]
  descriptors := shipment.descriptors ++ [descriptor]

/-- How many there are. -/
def size (shipment : Shipment) : Nat := shipment.descriptors.length

end Shipment

/-- The settings of an uploader. -/
structure StagingOptions where
  /-- The directory in the home directory, less its dot. -/
  space : String
  retry : RetryPolicy
  distPattern : DistBundlePattern

/-- The directory in the home directory where none is given, less its dot. -/
def defaultSpace : String := "shipyard"

/-- Staging for one application. -/
structure Uploader where
  home : Location
  applicationId : ApplicationId
  applicationDirectory : Location
  shared : SharedLibraryIndex
  options : StagingOptions

/-- The world, and what was registered and shipped in it. -/
structure Submission (σ : Type) where
  world : σ
  resources : ResourceTable
  shipment : Shipment

namespace Submission

variable {σ : Type}

/-- Nothing registered. -/
def start (world : σ) : Submission σ := ⟨world, .empty, .empty⟩

/-- A run in the world. -/
def onWorld {α : Type} (run : Run σ StorageError α) : Run (Submission σ) StagingError α :=
  .ofFunction fun submission =>
    let (result, world) := run.outcome submission.world
    (result.mapError .storage, { submission with world })

/-- Register a record. -/
def register (key : String) (resource : LocalResource) : Run (Submission σ) StagingError Unit :=
  .ofFunction fun submission =>
    (.ok (), { submission with resources := (submission.resources.register key resource).2 })

/-- Ship an artifact. -/
def ship {ε : Type} (descriptor : ArtifactDescriptor) : Run (Submission σ) ε Unit :=
  .ofFunction fun submission =>
    (.ok (), { submission with shipment := submission.shipment.push descriptor })

end Submission

namespace Uploader

variable {σ : Type}

open Submission

/-- Make the application's directory, unless something is there, and index the shared
libraries. -/
def open? (host : Host σ) (home : Location) (roots : List Location)
    (applicationId : ApplicationId) (options : StagingOptions) :
    Run σ StagingError Uploader := do
  let directory := ArtifactStaging.applicationDirectory home options.space applicationId
  (do
    if !(← host.storage.pathExists directory) then
      host.storage.makeDirectories directory Permission.ownerOnly).mapError .storage
  let shared ← (SharedLibraryIndex.build host.storage roots).mapError .sharedLibrary
  return ⟨home, applicationId, directory, shared, options⟩

/-- Where a file goes. -/
def destinationOf (uploader : Uploader) (directory fileName : String) : Location :=
  (uploader.applicationDirectory.join directory).join fileName

/-- Copy a local file to its destination, and answer the time that it shows there. -/
def upload (host : Host σ) (uploader : Uploader) (path : String) (localTime : Int64)
    (destination : Location) (replication : UInt16) : Run σ StorageError Int64 := do
  host.storage.copyFromLocal path destination true false
  host.storage.setReplication destination replication
  match ← Listing.await host uploader.options.retry destination with
  | some (first :: _) => return first.modificationTime
  | _ => return localTime

/-- Register a local file of a known size and time by copying it. -/
def registerFile (host : Host σ) (uploader : Uploader) (key path directory : String)
    (size : UInt64) (localTime : Int64) (replication : UInt16) :
    Run (Submission σ) StagingError Registration := do
  match PathText.fileName? path with
  | none => throw (.invalidArgument (.noFileName path))
  | some fileName =>
      let destination := uploader.destinationOf directory fileName
      let time ← onWorld (uploader.upload host path localTime destination replication)
      let descriptor : ArtifactDescriptor := ⟨key, destination, size, time, .application⟩
      register key descriptor.toLocalResource
      return .uploaded descriptor

/-- Register what a local path leads to, unless it is a directory. -/
def registerLocal (host : Host σ) (uploader : Uploader) (key path directory : String)
    (replication : UInt16) : Run (Submission σ) StagingError Registration := do
  let files ← Run.view fun submission => host.files submission.world
  match files.entry path with
  | .error cause => throw (.localIo path cause)
  | .ok entry =>
      if entry.isDirectory then throw (.directoryUpload path)
      else
        uploader.registerFile host key path directory (UInt64.ofNat entry.size) entry.modified
          replication

/-- Register one artifact under a key; if it is copied, into `directory`. -/
def registerSingle (host : Host σ) (uploader : Uploader) (key : String) (source : Location)
    (directory : String) (replication : UInt16) :
    Run (Submission σ) StagingError Registration := do
  match source.localPath? with
  | none =>
      let status ← onWorld (host.storage.stat source)
      let descriptor := ArtifactDescriptor.ofStatus key status .application
      register key descriptor.toLocalResource
      return .alreadyRemote descriptor
  | some path =>
      match uploader.shared.get? source.name with
      | some entry =>
          return .reusedShared (ArtifactDescriptor.ofStatus entry.fileName entry.status .shared)
      | none => uploader.registerLocal host key path directory replication

/-- Register the files of a plan in order, the distribution bundle left out. -/
def registerPlan (host : Host σ) (uploader : Uploader) (replication : UInt16) :
    (classpath : Classpath) → List PlanEntry → Run (Submission σ) StagingError Classpath
  | classpath, [] => return classpath
  | classpath, entry :: rest => do
      if uploader.options.distPattern.accepts entry.fileName then
        registerPlan host uploader replication classpath rest
      else
        let registration ← uploader.registerSingle host entry.destination entry.source
          entry.directory replication
        ship registration.descriptor
        let classpath := if registration.isPrivate then classpath.add entry else classpath
        registerPlan host uploader replication classpath rest

/-- What bulk registration cannot work with. -/
def checkArguments (logicalRoot : String) (replication : UInt16) : Except ArgumentFault Unit :=
  if replication < 1 then .error (.replicationTooLow replication)
  else if (Text.trimSlashes logicalRoot).isEmpty then .error .emptyLogicalRoot
  else .ok ()

/-- Register every file of some inputs beneath a logical root, and answer their classpath. -/
def registerMany (host : Host σ) (uploader : Uploader) (inputs : List Location)
    (logicalRoot : String) (replication : UInt16) :
    Run (Submission σ) StagingError (List String) := do
  Run.ofExcept ((checkArguments logicalRoot replication).mapError .invalidArgument)
  let plan ← onWorld (Plan.ofInputs host logicalRoot inputs)
  let classpath ← uploader.registerPlan host replication Classpath.empty plan
  return classpath.toList

/-- The record of a shared library. -/
def sharedResource (entry : SharedEntry) : LocalResource :=
  (ArtifactDescriptor.ofStatus entry.fileName entry.status .shared).toLocalResource

/-- Register every shared library under its name. -/
def withProvided (uploader : Uploader) (table : ResourceTable) : ResourceTable :=
  uploader.shared.entries.foldl
    (fun table entry => (table.register entry.fileName (sharedResource entry)).2) table

/-- The names of the shared libraries, the distribution bundle left out. -/
def providedClasspath (uploader : Uploader) : List String :=
  (uploader.shared.entries.map SharedEntry.fileName).filter fun name =>
    !uploader.options.distPattern.accepts name

/-- Register every shared library, and answer the names that belong on the classpath. -/
def registerProvided {ε : Type} (uploader : Uploader) : Run (Submission σ) ε (List String) :=
  .ofFunction fun submission =>
    (.ok uploader.providedClasspath,
      { submission with resources := uploader.withProvided submission.resources })

end Uploader

end ArtifactStaging
