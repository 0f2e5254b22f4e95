/-
# ArtifactStaging.Storage.Status -- what storage says about a file

Sizes are counted in bytes, times in milliseconds since 1970.
-/
import ArtifactStaging.Location.Basic
import ArtifactStaging.Json.Basic

set_option autoImplicit false

namespace ArtifactStaging

/-- A file or directory in storage. -/
structure FileStatus where
  path : Location
  size : UInt64
  modificationTime : Int64
  isDirectory : Bool
deriving DecidableEq, Repr, Inhabited

namespace FileStatus

/-- The last segment of the path. -/
def name (status : FileStatus) : String := status.path.name

/-- The status as JSON. -/
def toJson (status : FileStatus) : Json :=
  .obj [("path", .str status.path.render), ("size", .int status.size.toNat),
    ("modification_time", .int status.modificationTime.toInt),
    ("is_dir", .bool status.isDirectory)]

end FileStatus

/-- Permission bits. -/
structure Permission where
  mode : UInt32
deriving DecidableEq, Repr, Inhabited

namespace Permission

/-- Only the owner may read, write and enter. -/
def ownerOnly : Permission := ⟨0o700⟩

/-- The bits in octal. -/
def render (permission : Permission) : String :=
  String.ofList (Nat.toDigits 8 permission.mode.toNat)

end Permission

/-- The milliseconds since 1970 of a time given in whole seconds and nanoseconds after them. -/
def epochMillis (seconds : Int) (nanoseconds : Nat) : Int :=
  (seconds * 1000000000 + nanoseconds).fdiv 1000000

end ArtifactStaging
