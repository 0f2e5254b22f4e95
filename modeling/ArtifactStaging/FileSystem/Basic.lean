/-
# ArtifactStaging.FileSystem.Basic -- the operations on files

Reading leaves the file system as it is.  An operation that changes it answers
the file system after it or the cause of its refusal, and a refusal leaves all
as it was; only `createDirectories` can fail halfway, and then what it made
before stays.

What is changed is stamped by the clock, and so is the directory in which something is
made or removed.  A copy takes over the bytes and the permission bits of its source, and
the clock goes on a tick.  A file copied onto itself, by whatever name, is emptied, since
the destination is cut before the source is read.

A pipe or a device takes whatever is written to it and stays as it is; what another
program reads or writes there is not told.  No path opens a socket.
-/
import ArtifactStaging.FileSystem.Resolve
import ArtifactStaging.Text.Utf8

set_option autoImplicit false

namespace ArtifactStaging.FileSystem

/-! ## Reading -/

/-- The entry that a path leads to, links followed. -/
def entry (fs : FileSystem) (path : RawText) : Except IoCause Entry :=
  (fs.locate path).map Prod.snd

/-- Whether a path leads anywhere. -/
def pathExists (fs : FileSystem) (path : RawText) : Bool := (fs.entry path).toOption.isSome

/-- Whether a path leads to a directory. -/
def isDirectory (fs : FileSystem) (path : RawText) : Bool :=
  (fs.entry path).toOption.any Entry.isDirectory

/-- Whether a path leads to a regular file. -/
def isFile (fs : FileSystem) (path : RawText) : Bool :=
  (fs.entry path).toOption.any Entry.isFile

/-- The content of the file that a path leads to. -/
def readFile (fs : FileSystem) (path : RawText) : Except IoCause Content := do
  match ← fs.entry path with
  | .file _ content _ => .ok content
  | .directory _ => .error .isADirectory
  | .link .. => .error .tooManyLinks
  | .special .socket _ => .error .noSuchDevice
  | .special _ _ => .ok Content.empty

/-- The text of the file that a path leads to. -/
def readText (fs : FileSystem) (path : RawText) : Except IoCause String := do
  let content ← fs.readFile path
  (Text.decodeUtf8 content.bytes).mapError fun _ => .invalidText

/-- The permission bits of what a path leads to. -/
def mode (fs : FileSystem) (path : RawText) : Except IoCause UInt32 := do
  match ← fs.entry path with
  | .file _ _ attributes => .ok attributes.mode
  | .directory attributes => .ok attributes.mode
  | .special _ attributes => .ok attributes.mode
  | .link .. => .error .tooManyLinks

/-! ## Directories -/

/-- Put an entry at a place. -/
def put (fs : FileSystem) (place : Place) (entry : Entry) : FileSystem :=
  { fs with tree := fs.tree.put place entry }

/-- Stamp a directory in which something was changed. -/
def touch (fs : FileSystem) (place : Place) : FileSystem :=
  match fs.tree.at? place with
  | some (.directory attributes) => fs.put place (.directory { attributes with modified := fs.now })
  | _ => fs

/-- Put an entry where nothing stands. -/
def add (fs : FileSystem) (place : Place) (entry : Entry) : FileSystem :=
  (fs.put place entry).touch place.dropLast

/-- Make one directory. -/
def makeDirectory (fs : FileSystem) (path : RawText) : Except IoCause FileSystem := do
  match ← fs.resolveLast path with
  | .found .. => .error .alreadyExists
  | .missing place _ => .ok (fs.add place (.directory ⟨fs.now, Entry.newDirectoryMode⟩))

/-- What one attempt at a directory shows. -/
inductive Attempt where
  | made (fs : FileSystem)
  | present
  | missingParent
  | refused (cause : IoCause)

/-- Try to make a directory; one that is there already is as good. -/
def attempt (fs : FileSystem) (path : String) : Attempt :=
  match fs.makeDirectory path with
  | .ok fs => .made fs
  | .error cause =>
      if cause.isNotFound then .missingParent
      else if fs.isDirectory path then .present
      else .refused cause

/-- The paths above a path, nearest first, as far as they are not empty. -/
def ancestors : (steps : Nat) → String → List String
  | 0, _ => []
  | steps + 1, path =>
      match PathText.parent? path with
      | none => []
      | some parent => if parent.isEmpty then [] else parent :: ancestors steps parent

/-- Make directories one after the other, each of which may be there already. -/
def makeEach (fs : FileSystem) : List String → FileSystem × Except IoCause Unit
  | [] => (fs, .ok ())
  | path :: rest =>
      match fs.makeDirectory path with
      | .ok next => makeEach next rest
      | .error cause =>
          if fs.isDirectory path then makeEach fs rest else (fs, .error cause)

/-- Go up from a path to the first directory that is there or can be made, then down again
through `below`. -/
def makeFrom (fs : FileSystem) (below : List String) : List String →
    FileSystem × Except IoCause Unit
  | [] => makeEach fs below
  | path :: above =>
      match fs.attempt path with
      | .made next => makeEach next below
      | .present => makeEach fs below
      | .missingParent => makeFrom fs (path :: below) above
      | .refused cause => (fs, .error cause)

/-- Make a directory and all that are missing above it. -/
def createDirectories (fs : FileSystem) (path : String) : FileSystem × Except IoCause Unit :=
  if path.isEmpty then (fs, .ok ())
  else makeFrom fs [] (path :: ancestors (PathText.components path).length path)

/-- Set the permission bits of what a path leads to. -/
def setMode (fs : FileSystem) (path : RawText) (mode : UInt32) : Except IoCause FileSystem := do
  let bits := mode &&& Entry.modeBits
  match ← fs.locate path with
  | (place, .directory attributes) =>
      .ok (fs.put place (.directory { attributes with mode := bits }))
  | (place, .file number content attributes) =>
      .ok (fs.put place (.file number content { attributes with mode := bits }))
  | (place, .special kind attributes) =>
      .ok (fs.put place (.special kind { attributes with mode := bits }))
  | (_, .link ..) => .error .tooManyLinks

/-! ## Files -/

/-- Write content to what was opened for writing: over the file that is there, or to a new
one.  The permission bits after it may depend on those before. -/
def receive (fs : FileSystem) (content : Content) (bits : Option UInt32 → UInt32) :
    Target → Except IoCause FileSystem
  | .found place (.file number _ attributes) =>
      .ok (fs.put place (.file number content ⟨fs.now, bits (some attributes.mode)⟩))
  | .found _ (.special .socket _) => .error .noSuchDevice
  | .found _ (.special _ _) => .ok fs
  | .found _ _ => .error .isADirectory
  | .missing place _ =>
      .ok (fs.add place (.file fs.tree.freshNumber content ⟨fs.now, bits none⟩))

/-- Write a file, in place of what it held. -/
def writeFile (fs : FileSystem) (path : RawText) (content : Content) :
    Except IoCause FileSystem := do
  fs.receive content (·.getD Entry.newFileMode) (← fs.resolveForWriting path)

/-- Copy a file. -/
def copy (fs : FileSystem) (source destination : RawText) : Except IoCause FileSystem := do
  match ← fs.entry source with
  | .file number content attributes =>
      let target ← fs.resolveForWriting destination
      let copied := if target.number? = some number then Content.empty else content
      let written ← fs.receive copied (fun _ => attributes.mode) target
      .ok { written with now := fs.now + fs.tick }
  | .special .socket _ => .error .noSuchDevice
  | _ => .error .notRegular

/-- Remove a file or a link. -/
def removeFile (fs : FileSystem) (path : RawText) : Except IoCause FileSystem := do
  match ← fs.resolveLast path with
  | .missing .. => .error .notFound
  | .found _ (.directory _) => .error .isADirectory
  | .found place _ => .ok (touch { fs with tree := fs.tree.erase place } place.dropLast)

/-- Make a symbolic link. -/
def makeLink (fs : FileSystem) (path target : RawText) (modified : Int64) :
    Except IoCause FileSystem := do
  match ← fs.resolveLast path with
  | .found .. => .error .alreadyExists
  | .missing place _ => .ok (fs.add place (.link target modified))

end ArtifactStaging.FileSystem
