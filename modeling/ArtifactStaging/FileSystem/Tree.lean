/-
# ArtifactStaging.FileSystem.Tree -- what exists, and where

A place is the list of names from the root.  A tree holds the entries at all places.
Four facts are part of the type: the places ascend, so that a directory stands before
all that lies beneath it and siblings stand in the order of their names; the root is a
directory; every entry lies in a directory; and a file is the same under each of its
names.

Files are told apart by their numbers: entries of one number are one file under
several names.  What is put in the place of one of them is what all of them are after.

`put` and `erase` are the only changes.  Neither does anything that would break
these facts: nothing is put where there is no directory to hold it or in the
place of a directory, and no directory is erased.  `at?_put` says what becomes of
every place.
-/
import ArtifactStaging.FileSystem.RawText

set_option autoImplicit false

namespace ArtifactStaging

/-- The bytes of a file: those that were written, and so many zeros after them. -/
structure Content where
  written : List UInt8
  zeros : Nat := 0
deriving DecidableEq, Repr, Inhabited

namespace Content

/-- No bytes. -/
def empty : Content := ⟨[], 0⟩

/-- All bytes in order. -/
def bytes (content : Content) : List UInt8 :=
  content.written ++ List.replicate content.zeros 0

/-- How many bytes there are. -/
def size (content : Content) : Nat := content.written.length + content.zeros

theorem length_bytes (content : Content) : content.bytes.length = content.size := by
  simp [bytes, size]

end Content

/-- When something was changed last, in milliseconds since 1970, and its permission bits. -/
structure Attributes where
  modified : Int64
  mode : UInt32
deriving DecidableEq, Repr, Inhabited

/-- What is neither a file nor a directory nor a link. -/
inductive Special where
  | pipe
  | socket
  | device
deriving DecidableEq, Repr, Inhabited

/-- A thing in the file system. -/
inductive Entry where
  /-- A regular file; the number tells it from all others. -/
  | file (number : Nat) (content : Content) (attributes : Attributes)
  | directory (attributes : Attributes)
  | link (target : RawText) (modified : Int64)
  | special (kind : Special) (attributes : Attributes)
deriving DecidableEq, Repr, Inhabited

namespace Entry

/-- Whether the entry is a directory. -/
def isDirectory : Entry → Bool
  | .directory _ => true
  | _ => false

/-- Whether the entry is a regular file. -/
def isFile : Entry → Bool
  | .file .. => true
  | _ => false

/-- How many bytes an entry has; a directory shows none. -/
def size : Entry → Nat
  | .file _ content _ => content.size
  | .link target _ => target.size
  | _ => 0

/-- When the entry was changed last. -/
def modified : Entry → Int64
  | .file _ _ attributes => attributes.modified
  | .directory attributes => attributes.modified
  | .link _ modified => modified
  | .special _ attributes => attributes.modified

/-- The number of a file. -/
def number? : Entry → Option Nat
  | .file number _ _ => some number
  | _ => none

/-- Whether two entries are one file. -/
def sameFile (first second : Entry) : Bool :=
  first.number?.isSome && first.number? == second.number?

/-- What an entry is once another was written: that one, if the two are one file. -/
def afterWriting (written entry : Entry) : Entry :=
  if sameFile written entry then written else entry

/-- The permission bits of a new directory. -/
def newDirectoryMode : UInt32 := 0o755

/-- The permission bits of a new file. -/
def newFileMode : UInt32 := 0o644

/-- The permission bits that a mode can hold. -/
def modeBits : UInt32 := 0o7777

theorem sameFile_iff {first second : Entry} :
    sameFile first second = true ↔ ∃ number content attributes content' attributes',
      first = .file number content attributes ∧ second = .file number content' attributes' := by
  constructor
  · intro h
    cases first <;> cases second <;> simp [sameFile, number?] at h
    exact ⟨_, _, _, _, _, rfl, by rw [h]⟩
  · rintro ⟨number, content, attributes, content', attributes', rfl, rfl⟩
    simp [sameFile, number?]

theorem sameFile_comm (first second : Entry) : sameFile first second = sameFile second first := by
  rw [Bool.eq_iff_iff, sameFile_iff, sameFile_iff]
  constructor <;> rintro ⟨number, content, attributes, content', attributes', rfl, rfl⟩ <;>
    exact ⟨number, content', attributes', content, attributes, rfl, rfl⟩

theorem afterWriting_cases (written entry : Entry) :
    afterWriting written entry = written ∨
      afterWriting written entry = entry ∧ sameFile written entry = false := by
  unfold afterWriting
  split
  · exact .inl rfl
  · next other => exact .inr ⟨rfl, by simpa using other⟩

/-- Writing a file makes no directory of anything, and of no directory anything else. -/
theorem isDirectory_afterWriting (written entry : Entry) :
    (afterWriting written entry).isDirectory = entry.isDirectory := by
  unfold afterWriting
  split
  · next same =>
    obtain ⟨_, _, _, _, _, rfl, rfl⟩ := sameFile_iff.1 same
    rfl
  · rfl

end Entry

/-- The names from the root. -/
abbrev Place := List RawText

namespace FileTree

/-- Whether a directory is at a place. -/
def holdsDirectory (entries : Dictionary Place Entry) (place : Place) : Bool :=
  (entries.get? place).any Entry.isDirectory

end FileTree

/-- The entries of a file system. -/
structure FileTree where
  entries : Dictionary Place Entry
  root : FileTree.holdsDirectory entries [] = true
  rooted : ∀ place entry, entries.get? place = some entry →
    FileTree.holdsDirectory entries place.dropLast = true
  shared : ∀ place other first second, entries.get? place = some first →
    entries.get? other = some second → first.sameFile second = true → first = second

namespace FileTree

instance : DecidableEq FileTree := fun a b =>
  if h : a.entries = b.entries then
    .isTrue (by cases a; cases b; cases h; rfl)
  else .isFalse fun heq => h (by rw [heq])

/-- Nothing but the root. -/
def bare (attributes : Attributes) : FileTree where
  entries := Dictionary.empty.insert [] (.directory attributes)
  root := by simp [holdsDirectory, Dictionary.get?_insert, Entry.isDirectory]
  rooted place entry h := by
    rw [Dictionary.get?_insert, Dictionary.get?_empty] at h
    split at h
    · next heq =>
      subst heq
      simp [holdsDirectory, Dictionary.get?_insert, Entry.isDirectory]
    · cases h
  shared place other first second h h' _ := by
    rw [Dictionary.get?_insert, Dictionary.get?_empty] at h h'
    split at h <;> split at h' <;> cases h <;> cases h'
    rfl

instance : Inhabited FileTree := ⟨bare default⟩

/-- What is at a place. -/
def at? (tree : FileTree) (place : Place) : Option Entry := tree.entries.get? place

/-- Whether a directory is at a place. -/
def isDirectory (tree : FileTree) (place : Place) : Bool := holdsDirectory tree.entries place

theorem isDirectory_eq (tree : FileTree) (place : Place) :
    tree.isDirectory place = (tree.at? place).any Entry.isDirectory := rfl

/-- Whether an entry may be put at a place: a directory holds the place, and no directory
is lost. -/
def admits (tree : FileTree) (place : Place) (entry : Entry) : Bool :=
  tree.isDirectory place.dropLast && (entry.isDirectory || !tree.isDirectory place)

/-- The entries once another was written at a place. -/
def written (tree : FileTree) (place : Place) (entry : Entry) : Dictionary Place Entry :=
  (tree.entries.mapValues entry.afterWriting).insert place entry

section

variable {tree : FileTree} {place : Place} {entry : Entry}

theorem get?_written (other : Place) :
    (tree.written place entry).get? other =
      if place = other then some entry else (tree.at? other).map entry.afterWriting := by
  rw [written, Dictionary.get?_insert, Dictionary.get?_mapValues, at?]

/-- What is found after writing is what was written, or stood before and is another. -/
theorem found_written {other : Place} {found : Entry}
    (h : (tree.written place entry).get? other = some found) :
    found = entry ∨ tree.at? other = some found ∧ entry.sameFile found = false := by
  rw [get?_written] at h
  split at h
  · exact .inl (Option.some.inj h).symm
  · obtain ⟨old, hold, rfl⟩ := Option.map_eq_some_iff.1 h
    rcases entry.afterWriting_cases old with heq | ⟨heq, apart⟩
    · exact .inl heq
    · rw [heq]
      exact .inr ⟨hold, apart⟩

theorem holdsDirectory_written (h : tree.admits place entry = true) {other : Place}
    (hother : tree.isDirectory other = true) :
    holdsDirectory (tree.written place entry) other = true := by
  rw [holdsDirectory, get?_written]
  by_cases heq : place = other
  · subst heq
    simpa [admits, hother] using (Bool.and_eq_true_iff.1 h).2
  · rw [isDirectory_eq, Option.any_eq_true] at hother
    obtain ⟨old, hold, directory⟩ := hother
    simpa [heq, hold, Entry.isDirectory_afterWriting] using directory

theorem rooted_written (h : tree.admits place entry = true) (other : Place) (found : Entry)
    (hfound : (tree.written place entry).get? other = some found) :
    holdsDirectory (tree.written place entry) other.dropLast = true := by
  refine holdsDirectory_written h ?_
  rw [get?_written] at hfound
  split at hfound
  · next heq =>
    subst heq
    exact (Bool.and_eq_true_iff.1 h).1
  · obtain ⟨old, hold, -⟩ := Option.map_eq_some_iff.1 hfound
    exact tree.rooted other old hold

theorem shared_written (first second : Place) (found found' : Entry)
    (h : (tree.written place entry).get? first = some found)
    (h' : (tree.written place entry).get? second = some found')
    (same : found.sameFile found' = true) : found = found' := by
  rcases found_written h with rfl | ⟨hold, apart⟩
  · rcases found_written h' with rfl | ⟨-, apart⟩
    · rfl
    · rw [same] at apart
      cases apart
  · rcases found_written h' with rfl | ⟨hold', -⟩
    · rw [Entry.sameFile_comm, same] at apart
      cases apart
    · exact tree.shared first second found found' hold hold' same

/-- Put an entry at a place that admits it. -/
def put (tree : FileTree) (place : Place) (entry : Entry) : FileTree :=
  if h : tree.admits place entry = true then
    ⟨tree.written place entry, holdsDirectory_written h tree.root, rooted_written h,
      shared_written⟩
  else tree

theorem at?_put (h : tree.admits place entry = true) (other : Place) :
    (tree.put place entry).at? other =
      if place = other then some entry else (tree.at? other).map entry.afterWriting := by
  rw [put, dif_pos h]
  exact get?_written other

end

theorem holdsDirectory_erase {tree : FileTree} {place other : Place}
    (h : tree.isDirectory place = false) (hother : tree.isDirectory other = true) :
    holdsDirectory (tree.entries.erase place) other = true := by
  have apart : other ≠ place := by
    rintro rfl
    rw [hother] at h
    cases h
  rwa [holdsDirectory, Dictionary.get?_erase, if_neg apart]

/-- Nothing is at a place any more, unless it is a directory. -/
def erase (tree : FileTree) (place : Place) : FileTree :=
  if h : tree.isDirectory place = false then
    { entries := tree.entries.erase place
      root := holdsDirectory_erase h tree.root
      rooted := fun other found hfound => by
        rw [Dictionary.get?_erase] at hfound
        split at hfound
        · cases hfound
        · exact holdsDirectory_erase h (tree.rooted other found hfound)
      shared := fun first second found found' hfound hfound' => by
        rw [Dictionary.get?_erase] at hfound hfound'
        split at hfound <;> split at hfound'
        · cases hfound
        · cases hfound
        · cases hfound'
        · exact tree.shared first second found found' hfound hfound' }
  else tree

/-- The numbers of all files, once for each name. -/
def numbers (tree : FileTree) : List Nat :=
  tree.entries.entries.filterMap fun (_, entry) => entry.number?

/-- A number that no file has. -/
def freshNumber (tree : FileTree) : Nat := tree.numbers.foldr max 0 + 1

theorem number_lt_freshNumber {tree : FileTree} {place : Place} {entry : Entry} {number : Nat}
    (h : tree.at? place = some entry) (hnumber : entry.number? = some number) :
    number < tree.freshNumber := by
  have within : number ∈ tree.numbers :=
    List.mem_filterMap.2 ⟨(place, entry), Dictionary.mem_entries_iff.2 h, hnumber⟩
  rw [freshNumber, Nat.lt_succ_iff]
  generalize tree.numbers = numbers at within
  induction numbers with
  | nil => cases within
  | cons first rest ih =>
    rw [List.foldr_cons]
    rcases List.mem_cons.1 within with rfl | hrest
    · exact Nat.le_max_left _ _
    · exact Nat.le_trans (ih hrest) (Nat.le_max_right _ _)

/-! ## Beneath a directory -/

/-- The names that lead from one place to another beneath it. -/
def namesBeneath? : Place → Place → Option Place
  | [], place => some place
  | _ :: _, [] => none
  | a :: base, b :: place => if a = b then namesBeneath? base place else none

theorem namesBeneath?_eq_some {base place names : Place} :
    namesBeneath? base place = some names ↔ place = base ++ names := by
  induction base generalizing place with
  | nil => simp [namesBeneath?]
  | cons a base ih =>
    cases place with
    | nil => simp [namesBeneath?]
    | cons b place =>
      by_cases h : a = b
      · simp [namesBeneath?, h, ih]
      · simp [namesBeneath?, h, Ne.symm h]

/-- Every entry strictly beneath a place, with the names that lead to it: a directory before
what lies in it, siblings in the order of their names. -/
def beneath (tree : FileTree) (base : Place) : List (Place × Entry) :=
  tree.entries.entries.filterMap fun (place, entry) =>
    match namesBeneath? base place with
    | some [] => none
    | some names => some (names, entry)
    | none => none

/-- What stands beneath a place is what stands at the places beneath it. -/
theorem mem_beneath {tree : FileTree} {base names : Place} {entry : Entry} :
    (names, entry) ∈ tree.beneath base ↔ names ≠ [] ∧ tree.at? (base ++ names) = some entry := by
  simp only [beneath, List.mem_filterMap, Prod.exists]
  constructor
  · rintro ⟨place, other, hmem, hbeneath⟩
    split at hbeneath
    · cases hbeneath
    · next found hnames hfound =>
      cases hbeneath
      rw [namesBeneath?_eq_some.1 hfound, Dictionary.mem_entries_iff] at hmem
      exact ⟨hnames, hmem⟩
    · cases hbeneath
  · rintro ⟨hnames, hfound⟩
    rw [at?, ← Dictionary.mem_entries_iff] at hfound
    refine ⟨_, _, hfound, ?_⟩
    rw [namesBeneath?_eq_some.2 rfl]
    cases names with
    | nil => exact absurd rfl hnames
    | cons name rest => rfl

/-- The entries of a directory, in the order of their names. -/
def children (tree : FileTree) (base : Place) : List (RawText × Entry) :=
  (tree.beneath base).filterMap fun (names, entry) =>
    match names with
    | [name] => some (name, entry)
    | _ => none

end FileTree

end ArtifactStaging
