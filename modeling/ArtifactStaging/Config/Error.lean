/-
# ArtifactStaging.Config.Error -- why a configuration cannot be used

A layer may be unreadable, the merged layers may not have the shape of the
settings, and the settings may be out of bounds.
-/
import ArtifactStaging.DistBundle.Pattern
import ArtifactStaging.Storage.Error
import ArtifactStaging.Text.Utf8

set_option autoImplicit false

namespace ArtifactStaging

/-- A setting that is out of bounds. -/
inductive SettingFault where
  | replicationTooLow
  | noAttempts
  | badSpace (space : String)
  | emptyResourcesDirectory
  | emptyDistPrefix
  | badPath (key raw : String) (error : StorageError)
  | badPattern (fault : PatternFault)
deriving DecidableEq, Repr

/-- What is wrong with a setting. -/
def SettingFault.reason : SettingFault → String
  | .replicationTooLow => "replication must be at least 1"
  | .noAttempts => "retry.attempts must be at least 1"
  | .badSpace space => s!"namespace '{space}' must be a single path segment"
  | .emptyResourcesDirectory => "resources_dir must not be empty"
  | .emptyDistPrefix => "dist.prefix must not be empty"
  | .badPath key raw error => s!"{key} '{raw}': " ++ error.message
  | .badPattern fault => "dist: " ++ fault.message

/-- Why a configuration cannot be used. -/
inductive ConfigError where
  | unreadable (path : String) (cause : IoCause)
  | notText (path : String) (fault : Text.Utf8Fault)
  /-- A file that is not in the format of configuration files. -/
  | malformed (path : String)
  | misfit (error : Json.DecodeError)
  | outOfBounds (fault : SettingFault)
deriving DecidableEq, Repr

/-- The text of an error. -/
def ConfigError.message : ConfigError → String
  | .unreadable path cause => s!"IO error: {path}: " ++ cause.message
  | .notText path fault => s!"Parse error: {path}: invalid UTF-8: " ++ fault.message
  | .malformed path => s!"Parse error: {path}: TOML parse error"
  | .misfit error => "Parse error: invalid configuration: " ++ error.message
  | .outOfBounds fault => "Validation error: " ++ fault.reason

end ArtifactStaging
