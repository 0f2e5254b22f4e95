/-
# ArtifactStaging.CommandLine.Run -- running a command

A command runs on the files of a machine with a few facts about its surroundings
and answers what it prints and the code it exits with: 0 when it succeeds, 1
with one line that says why when it fails, and 2 when it cannot be understood.
-/
import ArtifactStaging.CommandLine.Arguments
import ArtifactStaging.Config.Effective
import ArtifactStaging.Logging.Filter
import ArtifactStaging.Manifest.Basic
import ArtifactStaging.Storage.Disk

set_option autoImplicit false

namespace ArtifactStaging.CommandLine

open Json

/-- What a command knows of its surroundings. -/
structure Surroundings where
  /-- The user's home directory, if it is set. -/
  home : Option String
  /-- The directory for temporary files. -/
  temporary : String
  /-- The absolute path of the working directory. -/
  working : String
  now : Instant
  /-- A random number, for a fresh identifier. -/
  random : Nat
deriving Repr

/-- What a command leaves behind, its files apart. -/
structure Report where
  code : UInt32
  printed : String
  complaint : String
deriving DecidableEq, Repr

/-- Why a command failed. -/
inductive Failure where
  | config (error : ConfigError)
  | logger (error : LoggerError)
  | staging (error : StagingError)
  | storage (error : StorageError)
  | manifest (error : ManifestError)
  | noHome
deriving DecidableEq, Repr

/-- The text of a failure. -/
def Failure.message : Failure → String
  | .config error => error.message
  | .logger error => error.message
  | .staging error => error.message
  | .storage error => error.message
  | .manifest error => error.message
  | .noHome => "no home_dir configured and $HOME is unset"

/-! ## Configuration -/

/-- The host's file of a user. -/
def hostFile (home : String) : String :=
  [".config", "shipyard", "shipyard.toml"].foldl PathText.append home

/-- What is set of a list of settings. -/
def present (settings : List (String × Option Json)) : Members :=
  settings.filterMap fun (name, value) => value.map fun value => (name, value)

/-- What the common options say about the log. -/
def logOverrides (common : CommonOptions) : Members :=
  present [("format", common.logFormat.map LogFormat.toJson), ("level", common.logLevel.map .str)]

/-- What the common options set. -/
def commonOverrides (common : CommonOptions) : List (String × Option Json) :=
  let log := logOverrides common
  [("home_dir", common.homeDirectory.map .str),
    ("shared_lib_dirs", common.sharedLibDirectories.map fun dirs => .arr (dirs.map .str)),
    ("local_root", common.localRoot.map .str),
    ("log", if log.isEmpty then none else some (.obj log))]

/-- What a command sets. -/
def overrides : Command → Json
  | .stage common options =>
      Json.ordered (.obj (present (commonOverrides common ++
        [("replication", options.replication.map fun factor => .int factor.toNat),
          ("resources_dir", options.resourcesDirectory.map .str)])))
  | .sharedLibs common _ => Json.ordered (.obj (present (commonOverrides common)))
  | .config common => Json.ordered (.obj (present (commonOverrides common)))

/-- The options of every command. -/
def Command.common : Command → CommonOptions
  | .stage common _ => common
  | .sharedLibs common _ => common
  | .config common => common

/-- The configuration in effect. -/
def effectiveConfig (around : Surroundings) (command : Command) (files : FileSystem) :
    Except Failure EffectiveConfig :=
  (EffectiveConfig.build files (around.home.map hostFile) command.common.config
    (some (overrides command))).mapError .config

/-- The settings in effect, once logging has started. -/
def settings (around : Surroundings) (command : Command) (files : FileSystem) :
    Except Failure Settings := do
  let effective ← effectiveConfig around command files
  let settings ← effective.settings.mapError .config
  (LogFilter.start false settings.log.level).mapError .logger
  .ok settings

/-- The root of the storage where none is set. -/
def defaultRoot (around : Surroundings) : String :=
  PathText.append around.temporary "shipyard-storage"

/-- The storage on the local disk. -/
def storageHost (around : Surroundings) (settings : Settings) : Host Disk :=
  Disk.host (settings.localRoot.getD (defaultRoot around))

/-! ## The commands -/

/-- An input as a location: a URI as it is, a local path made absolute. -/
def inputLocation (around : Surroundings) (raw : String) : Except StorageError Location := do
  let location ← Location.parse raw
  if location.scheme.isSome then .ok location
  else Location.parse (PathText.append around.working raw)

/-- The home of the staging directories. -/
def homeLocation (around : Surroundings) (settings : Settings) : Except Failure Location := do
  match ← settings.homeLocation.mapError fun fault => .config (.outOfBounds fault) with
  | some home => .ok home
  | none =>
      match around.home with
      | some home => (Location.parse home).mapError .storage
      | none => .error .noHome

/-- The identifier that was given, or a fresh one. -/
def applicationId (around : Surroundings) (given : Option String) :
    Except Failure ApplicationId :=
  let parsed := match given with
    | some raw => ApplicationId.parse raw
    | none => ApplicationId.fresh (around.now.seconds * 1000).toNat around.random
  parsed.mapError fun fault => .staging (.invalidApplicationId fault)

/-- What staging needs before it touches the storage. -/
structure Preparation where
  host : Host Disk
  home : Location
  applicationId : ApplicationId
  shared : List Location
  options : StagingOptions
  settings : Settings

/-- Get ready to stage. -/
def prepare (around : Surroundings) (command : Command) (given : Option String)
    (files : FileSystem) : Except Failure Preparation := do
  let settings ← settings around command files
  let home ← homeLocation around settings
  let applicationId ← applicationId around given
  let shared ← settings.sharedLocations.mapError fun fault => .config (.outOfBounds fault)
  let options ← settings.stagingOptions.mapError fun fault => .config (.outOfBounds fault)
  .ok ⟨storageHost around settings, home, applicationId, shared, options, settings⟩

/-- Stage the distribution bundle, if there is one, directly beneath the application's
directory. -/
def stageBundle (around : Surroundings) (ready : Preparation) (uploader : Uploader) :
    Option String → Run (Submission Disk) Failure Unit
  | none => return ()
  | some raw => do
      let bundle ← Run.ofExcept ((inputLocation around raw).mapError .storage)
      let registration ← (uploader.registerSingle ready.host bundle.name bundle ""
        ready.settings.replication).mapError .staging
      Submission.ship registration.descriptor

/-- Stage the inputs, if there are any. -/
def stageInputs (around : Surroundings) (ready : Preparation) (uploader : Uploader)
    (inputs : List String) : Run (Submission Disk) Failure (List String) := do
  let inputs ← Run.ofExcept ((inputs.mapM (inputLocation around)).mapError .storage)
  if inputs.isEmpty then return []
  else (uploader.registerMany ready.host inputs ready.settings.resourcesDirectory
    ready.settings.replication).mapError .staging

/-- Stage everything: shared libraries, distribution bundle, inputs. -/
def stageAll (around : Surroundings) (ready : Preparation) (uploader : Uploader)
    (options : StageOptions) : Run (Submission Disk) Failure StagingOutcome := do
  let provided ← uploader.registerProvided
  stageBundle around ready uploader options.distBundle
  let classpath ← stageInputs around ready uploader options.inputs
  Run.view fun submission => .ofSubmission uploader provided classpath submission

/-- Print the manifest, or write it to a file. -/
def deliver (manifest : StagingManifest) : Option String → Run Disk Failure String
  | none => return manifest.render ++ "\n"
  | some path => .ofFunction fun disk =>
      match manifest.writeTo path disk.files with
      | .ok files => (.ok "", { disk with files })
      | .error error => (.error (.manifest error), disk)

/-- `stage`: put files where the application's workers find them, and say what was done. -/
def stage (around : Surroundings) (command : Command) (options : StageOptions) :
    Run Disk Failure String := do
  let disk ← Run.view id
  let ready ← Run.ofExcept (prepare around command options.applicationId disk.files)
  let uploader ← (Uploader.open? ready.host ready.home ready.shared ready.applicationId
    ready.options).mapError .staging
  let outcome ← (.ofFunction fun disk =>
    let (result, submission) :=
      (stageAll around ready uploader options).outcome (Submission.start disk)
    (result, submission.world) : Run Disk Failure StagingOutcome)
  deliver (.ofOutcome around.now outcome) options.out

/-- Text with blanks after it, up to a width. -/
def padRight (width : Nat) (text : String) : String :=
  text ++ String.ofList (List.replicate (width - text.length) ' ')

/-- Text with blanks before it, up to a width. -/
def padLeft (width : Nat) (text : String) : String :=
  String.ofList (List.replicate (width - text.length) ' ') ++ text

/-- A shared library on a line. -/
def sharedLine (entry : SharedEntry) : String :=
  padRight 40 entry.fileName ++ " " ++ padLeft 10 (toString entry.status.size) ++ "  " ++
    entry.status.path.render ++ "\n"

/-- A shared library as JSON. -/
def sharedJson (entry : SharedEntry) : Json :=
  .obj [("modification_time", .int entry.status.modificationTime.toInt),
    ("name", .str entry.fileName), ("path", .str entry.status.path.render),
    ("root", .int entry.rootIndex), ("size", .int entry.status.size.toNat)]

/-- The shared libraries as text. -/
def sharedText (asJson : Bool) (entries : List SharedEntry) : String :=
  if asJson then (Json.arr (entries.map sharedJson)).pretty ++ "\n"
  else if entries.isEmpty then "No shared libraries found.\n"
  else Text.join "" (entries.map sharedLine)

/-- `shared-libs`: list the shared libraries. -/
def listShared (around : Surroundings) (command : Command) (asJson : Bool) :
    Run Disk Failure String := do
  let disk ← Run.view id
  let settings ← Run.ofExcept (settings around command disk.files)
  let roots ← Run.ofExcept
    (settings.sharedLocations.mapError fun fault => Failure.config (.outOfBounds fault))
  let index ← (SharedLibraryIndex.build (storageHost around settings).storage roots).mapError
    fun error => Failure.staging (.sharedLibrary error)
  return sharedText asJson index.entries

/-- `config`: print the configuration in effect. -/
def printConfig (around : Surroundings) (command : Command) : Run Disk Failure String := do
  let disk ← Run.view id
  let effective ← Run.ofExcept (effectiveConfig around command disk.files)
  return effective.render ++ "\n"

/-- Run a command. -/
def Command.run (around : Surroundings) (command : Command) : Run Disk Failure String :=
  match command with
  | .stage _ options => CommandLine.stage around command options
  | .sharedLibs _ asJson => listShared around command asJson
  | .config _ => printConfig around command

/-! ## Reports -/

/-- How the program is called. -/
def usageText : String :=
  "Usage: shipyard <stage|shared-libs|config> [OPTIONS] [SHIP]...\n"

/-- The name and version of the program. -/
def versionText : String := "shipyard 0.1.0\n"

/-- The report on a command line that runs no command. -/
def Refusal.report : Refusal → Report
  | .help => ⟨0, usageText, ""⟩
  | .version => ⟨0, versionText, ""⟩
  | .misuse => ⟨2, "", usageText⟩

/-- Run what arguments ask for, on the files of a machine. -/
def run (around : Surroundings) (arguments : List String) (files : FileSystem) :
    Report × FileSystem :=
  match parse arguments with
  | .error refusal => (refusal.report, files)
  | .ok command =>
      match (command.run around).outcome ⟨files, []⟩ with
      | (.ok printed, disk) => (⟨0, printed, ""⟩, disk.files)
      | (.error failure, disk) => (⟨1, "", "Error: " ++ failure.message ++ "\n"⟩, disk.files)

end ArtifactStaging.CommandLine
