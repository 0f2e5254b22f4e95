/-
# ArtifactStaging.FileSystem.Cause -- why the file system refuses

A refusal that the operating system numbers is written with its number.
-/

set_option autoImplicit false

namespace ArtifactStaging

/-- Why an operation on files failed. -/
inductive IoCause where
  | notFound
  | alreadyExists
  | notADirectory
  | isADirectory
  /-- Nothing can be read from a socket or written to it by its path. -/
  | noSuchDevice
  | nameTooLong
  | tooManyLinks
  /-- A path with a zero byte in it. -/
  | nulInName
  /-- A copy of something that is no regular file. -/
  | notRegular
  /-- Text that is not UTF-8. -/
  | invalidText
  /-- A copy that may not replace what is there. -/
  | destinationExists
  /-- Nothing is there, in another's words. -/
  | absent (text : String)
  /-- Any other cause, in its own words. -/
  | other (text : String)
deriving DecidableEq, Repr, Inhabited

namespace IoCause

/-- The text of a cause. -/
def message : IoCause → String
  | .notFound => "No such file or directory (os error 2)"
  | .alreadyExists => "File exists (os error 17)"
  | .notADirectory => "Not a directory (os error 20)"
  | .isADirectory => "Is a directory (os error 21)"
  | .noSuchDevice => "No such device or address (os error 6)"
  | .nameTooLong => "File name too long (os error 36)"
  | .tooManyLinks => "Too many levels of symbolic links (os error 40)"
  | .nulInName => "file name contained an unexpected NUL byte"
  | .notRegular => "the source path is neither a regular file nor a symlink to a regular file"
  | .invalidText => "stream did not contain valid UTF-8"
  | .destinationExists => "destination exists"
  | .absent text => text
  | .other text => text

/-- Whether the cause is that nothing is there. -/
def isNotFound : IoCause → Bool
  | .notFound => true
  | .absent _ => true
  | _ => false

end IoCause

end ArtifactStaging
