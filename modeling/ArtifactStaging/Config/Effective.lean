/-
# ArtifactStaging.Config.Effective -- the configuration in effect, and its sources

The layers, from the lowest to the highest: what is built in, the host's file if
it exists, a file that was asked for, and what the command line says.  The merged
value is kept together with the layers it came from, each file with the digest of
its bytes.
-/
import ArtifactStaging.Config.Merge
import ArtifactStaging.Config.Settings
import ArtifactStaging.Digest.Sha256
import ArtifactStaging.Toml.Reader

set_option autoImplicit false

namespace ArtifactStaging

open Json

namespace Config

/-- The lowest layer. -/
def builtin : Json :=
  let policy := RetryPolicy.default
  let rule := DistBundleRule.default
  Json.ordered (.obj [("home_dir", .null), ("namespace", .str defaultSpace),
    ("shared_lib_dirs", .arr []), ("local_root", .null), ("replication", .int 3),
    ("resources_dir", .str "lib"), ("retry", policy.toJson), ("dist", rule.toJson),
    ("log", LogSettings.toJson ⟨"info", .text⟩)])

end Config

/-- Where a layer came from. -/
inductive ConfigSource where
  | builtin
  /-- The host's file. -/
  | host (path digest : String)
  /-- A file that was asked for. -/
  | file (path digest : String)
  | commandLine
deriving DecidableEq, Repr

/-- A source as JSON. -/
def ConfigSource.toJson : ConfigSource → Json
  | .builtin => .obj [("origin", .str "builtin")]
  | .host path digest =>
      .obj [("origin", .str "host"), ("path", .str path), ("digest", .str digest)]
  | .file path digest =>
      .obj [("origin", .str "file"), ("path", .str path), ("digest", .str digest)]
  | .commandLine => .obj [("origin", .str "cli")]

/-- A merged configuration and its sources. -/
structure EffectiveConfig where
  config : Json
  sources : List ConfigSource

namespace EffectiveConfig

/-- The name of the schema. -/
def schemaId : String := "shipyard/effective_config@1"

/-- The configuration as JSON. -/
def toJson (effective : EffectiveConfig) : Json :=
  .obj [("schema_id", .str schemaId), ("config", effective.config),
    ("sources", .arr (effective.sources.map ConfigSource.toJson))]

/-- The configuration on many lines. -/
def render (effective : EffectiveConfig) : String := effective.toJson.pretty

/-- The settings, within bounds. -/
def settings (effective : EffectiveConfig) : Except ConfigError Settings :=
  Settings.ofConfig effective.config

/-- What is under names parted by dots. -/
def get? (effective : EffectiveConfig) (path : String) : Option Json :=
  effective.config.follow? (Text.split '.' path)

/-- A file as a layer, with the digest of its bytes. -/
def loadFile (files : FileSystem) (path : String) : Except ConfigError (Json × String) := do
  let content ← (files.readFile path).mapError (.unreadable path)
  let bytes := content.bytes
  let text ← (Text.decodeUtf8 bytes).mapError (.notText path)
  match Toml.parse text with
  | some value => .ok (value.ordered, Sha256.hex bytes)
  | none => .error (.malformed path)

/-- The layer of the host's file, unless there is none. -/
def hostLayer (files : FileSystem) : Option String →
    Except ConfigError (List (Json × ConfigSource))
  | none => .ok []
  | some path =>
      if files.pathExists path then do
        let (value, digest) ← loadFile files path
        .ok [(value, .host path digest)]
      else .ok []

/-- The layer of a file that was asked for. -/
def fileLayer (files : FileSystem) : Option String →
    Except ConfigError (List (Json × ConfigSource))
  | none => .ok []
  | some path => do
      let (value, digest) ← loadFile files path
      .ok [(value, .file path digest)]

/-- The layer of the command line. -/
def commandLayer : Option Json → List (Json × ConfigSource)
  | none => []
  | some value => [(value, .commandLine)]

/-- Merge the layers; their settings must be within bounds. -/
def build (files : FileSystem) (host file : Option String) (overrides : Option Json) :
    Except ConfigError EffectiveConfig := do
  let hostLayers ← hostLayer files host
  let fileLayers ← fileLayer files file
  let layers :=
    (Config.builtin, ConfigSource.builtin) :: (hostLayers ++ fileLayers ++ commandLayer overrides)
  let effective : EffectiveConfig :=
    ⟨Config.mergeLayers (layers.map Prod.fst), layers.map Prod.snd⟩
  let _ ← effective.settings
  .ok effective

end EffectiveConfig

end ArtifactStaging
