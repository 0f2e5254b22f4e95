/-
# ArtifactStaging.Staging.Plan -- which files go where

Inputs are files and directories, local or remote.  A plan lists every file with
its destination, a relative path beneath a logical root.  A directory gives one
entry for each file in it, placed as it lies relative to the directory's parent,
so that `conf` under `lib` goes to `lib/conf`; anything else gives one entry under
its own name.

A plan changes nothing.  Local directories are walked without entering links,
and a link counts only when it leads to a regular file.  What is neither a file nor a
directory nor a link counts as well.
-/
import ArtifactStaging.Staging.Error

set_option autoImplicit false

namespace ArtifactStaging

/-- Join two relative paths, whose slashes at either end do not count. -/
def joinRelative (base relative : String) : String :=
  let base := Text.trimSlashes base
  let relative := Text.trimSlashes relative
  if base.isEmpty then relative
  else if relative.isEmpty then base
  else base ++ "/" ++ relative

/-- A file and its destination relative to the application's directory. -/
structure PlanEntry where
  source : Location
  destination : String
deriving DecidableEq, Repr, Inhabited

namespace PlanEntry

/-- The last segment of the destination. -/
def fileName (entry : PlanEntry) : String := Text.lastSegment entry.destination

/-- The directory of the destination; empty when it has none. -/
def directory (entry : PlanEntry) : String :=
  match Text.cutLast? '/' entry.destination.toList with
  | some (before, _) => String.ofList before
  | none => ""

end PlanEntry

namespace Plan

variable {σ : Type}

/-- The one entry of an input that is no directory. -/
def single (logicalRoot : String) (input : Location) : PlanEntry :=
  ⟨input, joinRelative logicalRoot input.name⟩

/-- The entry of a file listed in a remote directory. -/
def ofRemote (logicalRoot : String) (anchor : Option Location) (file : FileStatus) : PlanEntry :=
  let relative := (anchor.bind (·.relativize? file.path)).getD file.name
  ⟨file.path, joinRelative logicalRoot relative⟩

/-- Whether what `path` leads to ships from a local directory: anything but a directory, and
of the links those to a regular file. -/
def ships (files : FileSystem) (path : RawText) : Entry → Bool
  | .directory _ => false
  | .link .. => files.isFile path
  | _ => true

/-- The entry of what was found in a local directory, if it ships: `names` lead to it.  A path
that is no text shows itself with replacement characters. -/
def ofLocal? (files : FileSystem) (logicalRoot directory : String) (names : Place)
    (entry : Entry) : Except StorageError (Option PlanEntry) :=
  let path := RawText.down directory names
  if ships files path entry then do
    let source ← Location.parse path.lossy
    let relative := (PathText.lastComponent? directory).toList ++ names.map RawText.lossy
    .ok (some ⟨source, joinRelative logicalRoot (Text.join "/" relative)⟩)
  else .ok none

/-- The entries of a local directory. -/
def ofDirectory (files : FileSystem) (logicalRoot directory : String) (place : Place) :
    Except StorageError (List PlanEntry) := do
  let found ← (files.tree.beneath place).mapM fun (names, entry) =>
    ofLocal? files logicalRoot directory names entry
  .ok (found.filterMap id)

/-- The entries of an input that is not remote. -/
def ofLocalInput (files : FileSystem) (logicalRoot : String) (input : Location) (path : String) :
    Except StorageError (List PlanEntry) :=
  match files.locate path with
  | .ok (place, .directory _) => ofDirectory files logicalRoot path place
  | _ => .ok [single logicalRoot input]

/-- The entries of one input. -/
def ofInput (host : Host σ) (logicalRoot : String) (input : Location) :
    Run σ StorageError (List PlanEntry) := do
  match input.localPath? with
  | some path =>
      let files ← Run.view host.files
      Run.ofExcept (ofLocalInput files logicalRoot input path)
  | none =>
      if ← host.storage.isDirectory input then
        let files ← host.storage.listFiles input
        return files.map (ofRemote logicalRoot input.parent?)
      else return [single logicalRoot input]

/-- The plan of some inputs, one after the other. -/
def ofInputs (host : Host σ) (logicalRoot : String) : List Location →
    Run σ StorageError (List PlanEntry)
  | [] => return []
  | input :: rest => do
      let entries ← ofInput host logicalRoot input
      let others ← ofInputs host logicalRoot rest
      return entries ++ others

end Plan

end ArtifactStaging
