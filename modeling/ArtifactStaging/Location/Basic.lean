/-
# ArtifactStaging.Location.Basic -- where a file lives

A location is a plain local path (`/tmp/app.jar`, `lib/a.txt`) or a URI
(`hdfs://namenode:8020/user/alice`).  Only a URI whose scheme is not `file` is
remote.

* `parse?` reads a location and fails only on the empty text.  A URI is written
  `scheme://authority/path`, or, without an authority, `scheme:path`; in the
  second form a one-letter scheme does not count, so that a drive letter stays
  local.  Trailing slashes are dropped, and a scheme is kept in lower case.
* `render` writes a location as text.
* `join`, `relativize?`, `parent?` and `name` move along the path.
-/
import ArtifactStaging.Text.Cut

set_option autoImplicit false

namespace ArtifactStaging

open Text

/-- A local or remote location. -/
structure Location where
  scheme : Option String
  authority : String
  path : String
deriving DecidableEq, Repr, Inhabited

namespace Location

/-! ## Reading -/

/-- The scheme of a URI into the local file system. -/
def localScheme : String := "file"

/-- A character that may follow the first letter of a scheme. -/
def isSchemeChar (c : Char) : Bool :=
  c.isAlphanum || c == '+' || c == '-' || c == '.'

/-- A letter, then letters, digits, plus, minus or dot. -/
def isScheme : List Char → Bool
  | [] => false
  | c :: rest => c.isAlpha && rest.all isSchemeChar

/-- A path without trailing slashes; one that holds nothing but slashes is the root. -/
def normalize (path : List Char) : List Char :=
  match dropTrailing '/' path with
  | [] => if path.isEmpty then [] else ['/']
  | trimmed => trimmed

/-- The authority up to the first slash, and the path from there on. -/
def authorityAndPath (rest : List Char) : List Char × List Char :=
  match cutFirst? '/' rest with
  | some (authority, path) => (authority, '/' :: path)
  | none => (rest, ['/'])

/-- `scheme://authority/path`. -/
def parseAuthorityForm? (text : List Char) : Option Location :=
  match cutMark? [':', '/', '/'] text with
  | none => none
  | some (scheme, rest) =>
      if isScheme scheme then
        let (authority, path) := authorityAndPath rest
        some ⟨some (lowerAscii (String.ofList scheme)), String.ofList authority,
          String.ofList (normalize path)⟩
      else none

/-- `scheme:path`, with a scheme of two letters or more and a path. -/
def parseBareForm? (text : List Char) : Option Location :=
  match cutFirst? ':' text with
  | none => none
  | some (scheme, rest) =>
      if 1 < scheme.length && isScheme scheme && !rest.isEmpty then
        some ⟨some (lowerAscii (String.ofList scheme)), "", String.ofList (normalize rest)⟩
      else none

/-- A plain path. -/
def plain (text : List Char) : Location :=
  ⟨none, "", String.ofList (normalize text)⟩

/-- Read a location; only the empty text is none. -/
def parse? (raw : String) : Option Location :=
  let text := raw.toList
  if text.isEmpty then none
  else some ((parseAuthorityForm? text).getD ((parseBareForm? text).getD (plain text)))

/-! ## Writing -/

/-- The text of a location: an opaque `scheme:path`, a full URI, or the plain path. -/
def render (location : Location) : String :=
  match location.scheme with
  | none => location.path
  | some scheme =>
      if location.authority.isEmpty && !startsWith location.path "/" then
        scheme ++ ":" ++ location.path
      else scheme ++ "://" ++ location.authority ++ location.path

instance : ToString Location := ⟨render⟩

/-! ## Views -/

/-- Whether the location lies outside the local file system. -/
def isRemote (location : Location) : Bool :=
  match location.scheme with
  | none => false
  | some scheme => scheme != localScheme

/-- The path in the local file system, if the location is not remote. -/
def localPath? (location : Location) : Option String :=
  if location.isRemote then none else some location.path

theorem localPath?_eq_none {location : Location} :
    location.localPath? = none ↔ location.isRemote = true := by
  simp [localPath?]

theorem localPath?_eq_some {location : Location} {path : String} :
    location.localPath? = some path ↔ location.isRemote = false ∧ location.path = path := by
  simp [localPath?]

/-- Whether the path is the root. -/
def isRoot (location : Location) : Bool := location.path == "/"

/-- The last segment of the path; empty for a root. -/
def name (location : Location) : String :=
  if location.isRoot then "" else lastSegment location.path

/-- The enclosing location; none for a root or a single relative segment. -/
def parent? (location : Location) : Option Location :=
  if location.isRoot then none
  else match cutLast? '/' location.path.toList with
    | none => none
    | some ([], _) => some { location with path := "/" }
    | some (before, _) => some { location with path := String.ofList before }

/-- The enclosing locations, nearest first, as far as they go. -/
def parents (location : Location) : List Location :=
  go location.path.length location
where
  /-- Each step shortens the path, so its length bounds their number. -/
  go : Nat → Location → List Location
    | 0, _ => []
    | steps + 1, location =>
        match location.parent? with
        | none => []
        | some parent => parent :: go steps parent

/-- Append a relative path, whose slashes at either end do not count. -/
def join (location : Location) (relative : String) : Location :=
  let added := trim '/' relative.toList
  if added.isEmpty then location
  else
    let base := location.path.toList
    let path := if base.getLast? = some '/' then base ++ added else base ++ '/' :: added
    { location with path := String.ofList (normalize path) }

/-- The path of `child` relative to `location`, if it lies strictly beneath it. -/
def relativize? (location child : Location) : Option String :=
  if location.scheme = child.scheme ∧ location.authority = child.authority then
    let lead := if location.isRoot then ['/'] else location.path.toList ++ ['/']
    match afterLead? lead child.path.toList with
    | none => none
    | some [] => none
    | some rest => some (String.ofList rest)
  else none

/-! ## Order -/

/-- No scheme comes before every scheme; two schemes are in code point order. -/
def compareSchemes : Option String → Option String → Ordering
  | none, none => .eq
  | none, some _ => .lt
  | some _, none => .gt
  | some s, some t => compare s t

/-- By scheme, then by authority, then by path, each in code point order. -/
instance : Ord Location where
  compare a b :=
    (compareSchemes a.scheme b.scheme).then
      ((compare a.authority b.authority).then (compare a.path b.path))

/-- Whether `a` does not come after `b`. -/
def le (a b : Location) : Bool := (compare a b).isLE

/-- The locations in order; equal ones keep their places. -/
def sort (locations : List Location) : List Location := locations.mergeSort le

/-- How many remain when of equal neighbours only the first is kept. -/
def distinctNeighbours : List Location → Nat
  | [] => 0
  | [_] => 1
  | a :: b :: rest =>
      if a = b then distinctNeighbours (b :: rest) else distinctNeighbours (b :: rest) + 1

end Location

end ArtifactStaging
