/-
# ArtifactStaging.Staging.Error -- why staging fails
-/
import ArtifactStaging.Application
import ArtifactStaging.DistBundle.Pattern
import ArtifactStaging.SharedLibrary

set_option autoImplicit false

namespace ArtifactStaging

/-- An argument that no staging can work with. -/
inductive ArgumentFault where
  | replicationTooLow (factor : UInt16)
  | emptyLogicalRoot
  | noFileName (path : String)
deriving DecidableEq, Repr

/-- What is wrong with the argument. -/
def ArgumentFault.reason : ArgumentFault → String
  | .replicationTooLow factor => s!"replication factor must be at least 1, got {factor}"
  | .emptyLogicalRoot => "logical resource directory must not be empty"
  | .noFileName path => s!"no file name: {path}"

/-- Why staging failed. -/
inductive StagingError where
  | storage (error : StorageError)
  | sharedLibrary (error : SharedLibraryError)
  /-- A directory where one file is asked for. -/
  | directoryUpload (path : String)
  | invalidArgument (fault : ArgumentFault)
  | invalidApplicationId (fault : IdFault)
  /-- A local file that cannot be looked at. -/
  | localIo (path : String) (cause : IoCause)
  | pattern (fault : PatternFault)
deriving DecidableEq, Repr

/-- The text of an error. -/
def StagingError.message : StagingError → String
  | .storage error => error.message
  | .sharedLibrary error => error.message
  | .directoryUpload path => "File to copy cannot be a directory: " ++ path
  | .invalidArgument fault => "Invalid argument: " ++ fault.reason
  | .invalidApplicationId fault => fault.message
  | .localIo path cause => "I/O error at " ++ path ++ ": " ++ cause.message
  | .pattern fault => fault.message

end ArtifactStaging
