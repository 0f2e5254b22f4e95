/-
# ArtifactStaging.Storage.Error -- why storage refuses

That nothing is at a path is a case of its own, since callers wait for a file
that was just written; every other cause from below is kept with the path.
-/
import ArtifactStaging.FileSystem.Cause
import ArtifactStaging.Location.Basic

set_option autoImplicit false

namespace ArtifactStaging

/-- Why a storage operation failed. -/
inductive StorageError where
  | notFound (path : String)
  | io (path : String) (cause : IoCause)
  | unsupported (operation path : String)
  | invalidPath (reason : String)
deriving DecidableEq, Repr, Inhabited

namespace StorageError

/-- The text of an error. -/
def message : StorageError → String
  | .notFound path => "path not found: " ++ path
  | .io path cause => "I/O error at " ++ path ++ ": " ++ cause.message
  | .unsupported operation path =>
      "operation '" ++ operation ++ "' is not supported for " ++ path
  | .invalidPath reason => "invalid path: " ++ reason

/-- A cause from below, at a path. -/
def ofCause (path : String) (cause : IoCause) : StorageError :=
  if cause.isNotFound then .notFound path else .io path cause

/-- Whether nothing is at the path. -/
def isNotFound : StorageError → Bool
  | .notFound _ => true
  | _ => false

end StorageError

namespace Location

/-- Read a location; the empty text is no path. -/
def parse (raw : String) : Except StorageError Location :=
  match parse? raw with
  | some location => .ok location
  | none => .error (.invalidPath "empty path")

end Location

end ArtifactStaging
