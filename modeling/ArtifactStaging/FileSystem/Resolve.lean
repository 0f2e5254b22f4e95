/-
# ArtifactStaging.FileSystem.Resolve -- from a path to a place

A path is followed name by name.  A dot stays, two dots go to the enclosing
directory (the root encloses itself), and every other name is looked up in the
directory reached.  A link is replaced by its target, seen from the directory it
stands in; at the end of the path it is followed only on demand, or when the
path says that it names a directory.  At most `linkBudget` links are followed.

The last name may be missing: the answer is then the place where it would be.
-/
import ArtifactStaging.FileSystem.Cause
import ArtifactStaging.FileSystem.Tree

set_option autoImplicit false

namespace ArtifactStaging

/-- The files of one machine, the directory that relative paths start from, and the clock
that stamps what is changed. -/
structure FileSystem where
  tree : FileTree
  here : Place
  /-- What the clock shows, in milliseconds since 1970. -/
  now : Int64
  /-- How far the clock goes on from one copy to the next. -/
  tick : Int64
deriving DecidableEq, Inhabited

/-- Where a path leads. -/
inductive Target where
  /-- To an entry. -/
  | found (place : Place) (entry : Entry)
  /-- To a name that is missing in its directory; `asDirectory` when a slash follows it. -/
  | missing (place : Place) (asDirectory : Bool)
deriving DecidableEq, Repr

/-- The number of the file that was found. -/
def Target.number? : Target → Option Nat
  | .found _ entry => entry.number?
  | .missing .. => none

namespace FileSystem

/-- The most bytes of one name. -/
def longestName : Nat := 255

/-- The most bytes of a path. -/
def longestPath : Nat := 4095

/-- How many links one path may follow. -/
def linkBudget : Nat := 40

/-- What is left to follow: names from a place, and whether the last must be a directory. -/
structure Route where
  start : Place
  names : List RawText
  asDirectory : Bool
deriving DecidableEq, Repr

/-- The route of a path seen from a directory. -/
def Route.ofPath (base : Place) (path : RawText) : Route :=
  ⟨if path.isAbsolute then [] else base, path.names, path.endsInSlash⟩

/-- The route on from a link to `target` in the directory `base`, with `rest` still to go. -/
def Route.throughLink (base : Place) (target : RawText) (rest : List RawText)
    (asDirectory : Bool) : Route :=
  let route := Route.ofPath base target
  ⟨route.start, route.names ++ rest,
    asDirectory || (rest.isEmpty && route.asDirectory)⟩

/-- Follow names from a directory; `onLink` goes on from a link that is to be followed. -/
def follow (tree : FileTree) (followLast : Bool)
    (onLink : Route → Except IoCause Target) (asDirectory : Bool) :
    Place → List RawText → Except IoCause Target
  | place, [] =>
      match tree.at? place with
      | some entry => .ok (.found place entry)
      | none => .error .notFound
  | place, name :: rest =>
      if name = RawText.of "." then follow tree followLast onLink asDirectory place rest
      else if name = RawText.of ".." then
        follow tree followLast onLink asDirectory place.dropLast rest
      else if longestName < name.size then .error .nameTooLong
      else
        let inner := place ++ [name]
        match tree.at? inner with
        | none => if rest.isEmpty then .ok (.missing inner asDirectory) else .error .notFound
        | some (.directory _) => follow tree followLast onLink asDirectory inner rest
        | some (.link target modified) =>
            if rest.isEmpty && !asDirectory && !followLast then
              .ok (.found inner (.link target modified))
            else onLink (Route.throughLink place target rest asDirectory)
        | some leaf =>
            if rest.isEmpty && !asDirectory then .ok (.found inner leaf) else .error .notADirectory

/-- Follow a route through at most so many links. -/
def followWithin (tree : FileTree) (followLast : Bool) : (links : Nat) → Route →
    Except IoCause Target
  | 0, route =>
      follow tree followLast (fun _ => .error .tooManyLinks) route.asDirectory route.start
        route.names
  | links + 1, route =>
      follow tree followLast (followWithin tree followLast links) route.asDirectory route.start
        route.names

/-- What the system refuses before it looks at any name. -/
def checkPath (path : RawText) : Except IoCause Unit :=
  if path.bytes.contains 0 then .error .nulInName
  else if path.isEmpty then .error .notFound
  else if longestPath < path.size then .error .nameTooLong
  else .ok ()

/-- Where a path leads, links followed. -/
def resolve (fs : FileSystem) (path : RawText) : Except IoCause Target := do
  checkPath path
  followWithin fs.tree true linkBudget (Route.ofPath fs.here path)

/-- Where a path leads when a link at its end is not followed; a slash at the end does not
count. -/
def resolveLast (fs : FileSystem) (path : RawText) : Except IoCause Target := do
  checkPath path
  followWithin fs.tree false linkBudget { Route.ofPath fs.here path with asDirectory := false }

/-- Where a path leads that is opened for writing; a slash at its end is refused, once the
directory before it is reached. -/
def resolveForWriting (fs : FileSystem) (path : RawText) : Except IoCause Target := do
  checkPath path
  let route := Route.ofPath fs.here path
  if route.asDirectory then
    match ← followWithin fs.tree true linkBudget { route with names := route.names.dropLast } with
    | .missing .. => .error .notFound
    | .found .. => .error .isADirectory
  else
    match ← followWithin fs.tree true linkBudget route with
    | .missing place false => .ok (.missing place false)
    | .missing _ true => .error .isADirectory
    | .found place entry => .ok (.found place entry)

/-- The entry that a path leads to, with its place. -/
def locate (fs : FileSystem) (path : RawText) : Except IoCause (Place × Entry) := do
  match ← fs.resolve path with
  | .found place entry => .ok (place, entry)
  | .missing .. => .error .notFound

end FileSystem

end ArtifactStaging
