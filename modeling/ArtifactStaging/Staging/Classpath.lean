/-
# ArtifactStaging.Staging.Classpath -- what a worker puts on its classpath

An archive stands on the classpath by itself, any other file by its directory.
The directories come first and the archives after them; each of the two groups
ascends and names nothing twice.
-/
import ArtifactStaging.Dictionary
import ArtifactStaging.Staging.Plan

set_option autoImplicit false

namespace ArtifactStaging

/-- The end of the name of an archive. -/
def archiveExtension : String := ".jar"

/-- Whether a destination is an archive. -/
def isArchive (destination : String) : Bool := Text.endsWith destination archiveExtension

/-- What stands on a classpath so far. -/
structure Classpath where
  directories : Dictionary String Unit
  archives : Dictionary String Unit
deriving DecidableEq

namespace Classpath

/-- Nothing. -/
def empty : Classpath := ⟨.empty, .empty⟩

/-- What a file contributes. -/
def add (classpath : Classpath) (entry : PlanEntry) : Classpath :=
  if isArchive entry.destination then
    { classpath with archives := classpath.archives.insert entry.destination () }
  else { classpath with directories := classpath.directories.insert entry.directory () }

/-- The directories, then the archives. -/
def toList (classpath : Classpath) : List String :=
  classpath.directories.keys ++ classpath.archives.keys

/-- The classpath of some files. -/
def ofEntries (entries : List PlanEntry) : List String :=
  (entries.foldl add empty).toList

end Classpath

end ArtifactStaging
