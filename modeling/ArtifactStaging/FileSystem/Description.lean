/-
# ArtifactStaging.FileSystem.Description -- file systems in words

A file system can be described as a list of items, each a JSON object with a
`path`: a directory (`dir` is true), a symbolic link (`symlink` is its target) or
a file.  A file has its text under `content`, its bytes in hexadecimal under `hex`
or a number of zero bytes under `size`, and its time under `mtime`, in
milliseconds since 1970.  The directories above an item are made as needed.

`listing` says in lines of text what lies in a directory.
-/
import ArtifactStaging.FileSystem.Basic
import ArtifactStaging.Json.Canonical
import ArtifactStaging.Json.Reader

set_option autoImplicit false

namespace ArtifactStaging

/-- The time of a described entry that has none of its own. -/
def describedTime : Int64 := 1000000000

/-- What an item describes. -/
inductive Described where
  | directory
  | link (target : String)
  | file (content : Content) (modified : Int64)
deriving DecidableEq, Repr

namespace Described

/-- Bytes in hexadecimal, as far as they go. -/
def bytesOfHex : List Char → List UInt8
  | a :: b :: rest =>
      match Text.hexValue? a, Text.hexValue? b with
      | some high, some low => UInt8.ofNat (high * 16 + low) :: bytesOfHex rest
      | _, _ => []
  | _ => []

/-- The content of a described file. -/
def contentOf (item : Json) : Content :=
  match item.member? "hex", item.member? "size", item.member? "content" with
  | some (.str hex), _, _ => ⟨bytesOfHex hex.toList, 0⟩
  | _, some (.int size), _ => ⟨[], size.toNat⟩
  | _, _, some (.str text) => ⟨Text.utf8Bytes text.toList, 0⟩
  | _, _, _ => Content.empty

/-- What an item describes. -/
def ofJson (item : Json) : Described :=
  match item.member? "dir", item.member? "symlink", item.member? "mtime" with
  | some (.bool true), _, _ => .directory
  | _, some (.str target), _ => .link target
  | _, _, some (.int time) => .file (contentOf item) (Int64.ofInt time)
  | _, _, _ => .file (contentOf item) describedTime

end Described

namespace FileSystem

/-- A file system with nothing in it but its working directory. -/
def blank (here : Place) (now tick : Int64) : FileSystem :=
  let directory : Attributes := ⟨now, Entry.newDirectoryMode⟩
  { tree := (List.range here.length).foldl
      (fun tree count => tree.put (here.take (count + 1)) (.directory directory))
      (FileTree.bare directory)
    here := here
    now := now
    tick := tick }

/-- Make the directories above a path. -/
def makeParent (fs : FileSystem) (path : String) : FileSystem :=
  match PathText.parent? path with
  | some parent => (fs.createDirectories parent).1
  | none => fs

/-- Write a file as of a time. -/
def writeDated (fs : FileSystem) (path : RawText) (content : Content) (modified : Int64) :
    Except IoCause FileSystem := do
  let written ← fs.writeFile path content
  match ← written.locate path with
  | (place, .file number content attributes) =>
      .ok (written.put place (.file number content { attributes with modified }))
  | _ => .ok written

/-- Make what is described at a path; what cannot be made is left out. -/
def make (fs : FileSystem) (path : String) : Described → FileSystem
  | .directory => (fs.createDirectories path).1
  | .link target =>
      let fs := fs.makeParent path
      (fs.makeLink path target describedTime).toOption.getD fs
  | .file content modified =>
      let fs := fs.makeParent path
      (fs.writeDated path content modified).toOption.getD fs

/-- Make what an item describes. -/
def makeItem (fs : FileSystem) (item : Json) : FileSystem :=
  match item.member? "path" with
  | some (.str path) => fs.make path (Described.ofJson item)
  | _ => fs

/-- Make what items describe, in order. -/
def makeItems (fs : FileSystem) (items : List Json) : FileSystem := items.foldl makeItem fs

/-- An entry on a line: directories end in a slash, links show their target, and files, if
asked, their size. -/
def line (withSizes : Bool) (names : Place) (entry : Entry) : String :=
  let shown := (RawText.join names).lossy
  match entry with
  | .directory _ => shown ++ "/"
  | .file _ content _ => shown ++ (if withSizes then " " ++ toString content.size else "")
  | .link target _ => shown ++ " -> " ++ target.lossy
  | .special _ _ => shown

/-- The lines of everything in the working directory, in order. -/
def listing (withSizes : Bool) (fs : FileSystem) : List String :=
  ((fs.tree.beneath fs.here).map fun (names, entry) => line withSizes names entry).mergeSort
    fun a b => decide (a ≤ b)

end FileSystem

end ArtifactStaging
