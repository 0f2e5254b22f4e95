/-
# ArtifactStaging.Config.Settings -- the settings of one staging run

The merged configuration as data of its own.  `validate` checks the bounds, in
the order in which they are reported; what else staging needs from the settings
(`homeLocation`, `sharedLocations`, `stagingOptions`) is derived from them.
-/
import ArtifactStaging.Config.Error
import ArtifactStaging.Logging.Format
import ArtifactStaging.Staging.Uploader

set_option autoImplicit false

namespace ArtifactStaging

open Json

/-- What is logged, and how. -/
structure LogSettings where
  level : String
  format : LogFormat
deriving DecidableEq, Repr, Inhabited

namespace LogSettings

/-- The settings as JSON. -/
def toJson (settings : LogSettings) : Json :=
  .obj [("level", .str settings.level), ("format", settings.format.toJson)]

/-- The fields of the settings. -/
def record : Json.Record where
  name := "LogSettings"
  fields := [.required "level" Decoder.text, .required "format" LogFormat.decode]

/-- The settings in a JSON value. -/
def decode : Decoder LogSettings := fun value => do
  let members ← record.read value
  .ok {
    level := ← Record.get members "level" Decoder.text
    format := ← Record.get members "format" LogFormat.decode }

end LogSettings

/-- The settings of one staging run. -/
structure Settings where
  homeDirectory : Option String
  /-- The directory in the home directory, less its dot. -/
  space : String
  sharedLibDirectories : List String
  /-- The local directory behind remote locations. -/
  localRoot : Option String
  replication : UInt16
  resourcesDirectory : String
  retry : RetryPolicy
  dist : DistBundleRule
  log : LogSettings
deriving DecidableEq, Repr

namespace Settings

/-- Text or null, as JSON. -/
def optionalText : Option String → Json
  | some text => .str text
  | none => .null

/-- The settings as JSON. -/
def toJson (settings : Settings) : Json :=
  .obj [("home_dir", optionalText settings.homeDirectory), ("namespace", .str settings.space),
    ("shared_lib_dirs", .arr (settings.sharedLibDirectories.map Json.str)),
    ("local_root", optionalText settings.localRoot),
    ("replication", .int settings.replication.toNat),
    ("resources_dir", .str settings.resourcesDirectory), ("retry", settings.retry.toJson),
    ("dist", settings.dist.toJson), ("log", settings.log.toJson)]

/-- A home directory in a JSON value. -/
def decodeHome : Decoder (Option String) := Decoder.optional Decoder.text

/-- A local directory in a JSON value. -/
def decodeRoot : Decoder (Option String) := Decoder.optional (Decoder.textAs "path string")

/-- The fields of the settings. -/
def record : Json.Record where
  name := "StagerConfig"
  fields :=
    [.defaulted "home_dir" decodeHome, .required "namespace" Decoder.text,
      .defaulted "shared_lib_dirs" (Decoder.list Decoder.text),
      .defaulted "local_root" decodeRoot, .required "replication" Decoder.word16,
      .required "resources_dir" Decoder.text, .required "retry" RetryPolicy.decode,
      .required "dist" DistBundleRule.decode, .required "log" LogSettings.decode]

/-- The settings in a JSON value. -/
def decode : Decoder Settings := fun value => do
  let members ← record.read value
  .ok {
    homeDirectory := ← Record.getD members "home_dir" decodeHome none
    space := ← Record.get members "namespace" Decoder.text
    sharedLibDirectories :=
      ← Record.getD members "shared_lib_dirs" (Decoder.list Decoder.text) []
    localRoot := ← Record.getD members "local_root" decodeRoot none
    replication := ← Record.get members "replication" Decoder.word16
    resourcesDirectory := ← Record.get members "resources_dir" Decoder.text
    retry := ← Record.get members "retry" RetryPolicy.decode
    dist := ← Record.get members "dist" DistBundleRule.decode
    log := ← Record.get members "log" LogSettings.decode }

/-! ## What follows from the settings -/

/-- A setting as a location. -/
def location (key raw : String) : Except SettingFault Location :=
  (Location.parse raw).mapError (.badPath key raw)

/-- The home directory, if one is set. -/
def homeLocation (settings : Settings) : Except SettingFault (Option Location) :=
  match settings.homeDirectory with
  | none => .ok none
  | some raw => (location "home_dir" raw).map some

/-- The roots of the shared libraries. -/
def sharedLocations (settings : Settings) : Except SettingFault (List Location) :=
  settings.sharedLibDirectories.mapM (location "shared_lib_dirs")

/-- The options of an uploader. -/
def stagingOptions (settings : Settings) : Except SettingFault StagingOptions := do
  let pattern ← (DistBundlePattern.ofRule settings.dist).mapError SettingFault.badPattern
  .ok ⟨settings.space, settings.retry, pattern⟩

/-- Whether a text is one segment of a path, as the staging directories need it. -/
def isSegment (space : String) : Bool :=
  !space.isEmpty && !space.toList.contains '/' && !Text.occursIn ".." space

/-- Check the bounds. -/
def validate (settings : Settings) : Except SettingFault Unit := do
  if settings.replication < 1 then throw .replicationTooLow
  if settings.retry.attempts < 1 then throw .noAttempts
  if !isSegment settings.space then throw (.badSpace settings.space)
  if (Text.trimSlashes settings.resourcesDirectory).isEmpty then throw .emptyResourcesDirectory
  if settings.dist.lead.isEmpty then throw .emptyDistPrefix
  let _ ← settings.homeLocation
  let _ ← settings.sharedLocations

/-- The settings of a merged configuration, within bounds. -/
def ofConfig (config : Json) : Except ConfigError Settings := do
  let settings ← (decode config).mapError .misfit
  settings.validate.mapError .outOfBounds
  .ok settings

end Settings

end ArtifactStaging
