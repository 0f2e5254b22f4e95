/-
# ArtifactStaging.FileSystem.PathText -- the written form of a local path

A path is text with slashes in it.  The system looks at its *names*, the pieces
that are not empty.  Its *components* are the names without those single dots
that mean nothing: a dot counts only where a relative path starts with it.

A path's parent, its file name and its place beneath another path go by
components; whether a path exists goes by names (`FileSystem.Resolve`).
-/
import ArtifactStaging.Text.Cut

set_option autoImplicit false

namespace ArtifactStaging.PathText

open Text

/-- Whether the path starts at the root. -/
def isAbsolute (path : String) : Bool := startsWith path "/"

/-- The pieces between slashes that are not empty. -/
def names (path : String) : List String := (split '/' path).filter fun name => !name.isEmpty

/-- Whether the path says that it names a directory. -/
def endsInSlash (path : String) : Bool := endsWith path "/"

/-- The names that count; the root is none of them. -/
def components (path : String) : List String :=
  match names path with
  | [] => []
  | first :: rest =>
      let others := rest.filter (· != ".")
      if first == "." && isAbsolute path then others else first :: others

/-- A path written from components. -/
def render (absolute : Bool) (parts : List String) : String :=
  (if absolute then "/" else "") ++ join "/" parts

/-- The path without its last component; none for the root and the empty path. -/
def parent? (path : String) : Option String :=
  match components path with
  | [] => none
  | parts => some (render (isAbsolute path) parts.dropLast)

/-- The last component. -/
def lastComponent? (path : String) : Option String := (components path).getLast?

/-- The last component, if it names an entry of its directory. -/
def fileName? (path : String) : Option String :=
  (lastComponent? path).filter fun name => name != "." && name != ".."

/-- `relative` beneath `base`; an absolute path stands for itself. -/
def append (base relative : String) : String :=
  if isAbsolute relative then relative
  else if base.isEmpty || endsInSlash base then base ++ relative
  else base ++ "/" ++ relative

end ArtifactStaging.PathText
