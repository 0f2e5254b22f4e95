/-
# ArtifactStaging.SharedLibrary -- the libraries that every application may use

The roots of the shared libraries are listed once for a submission.  A root that
is missing or is no directory is passed over.  Each file found is an entry under
its own name, with the position of its root; entries keep the order in which they
were found.

A name may be found once only.  Every later file of a name is a conflict with
the first, and all conflicts are reported together.  One pass over the files sorts
them out: it keeps the files of new names, where each name stands among them, and
the conflicts (`Pass`).  `indexOf` answers an index exactly when there is no
conflict.  A library is looked up by the position of its name.
-/
import ArtifactStaging.Dictionary
import ArtifactStaging.Storage.Basic

set_option autoImplicit false

namespace ArtifactStaging

/-- A file found beneath a root. -/
structure SharedEntry where
  fileName : String
  status : FileStatus
  /-- The position of the root. -/
  rootIndex : Nat
deriving DecidableEq, Repr, Inhabited

/-- Two files of one name. -/
structure NameConflict where
  fileName : String
  first : Location
  second : Location
  sameRoot : Bool
deriving DecidableEq, Repr

/-- The text of a conflict. -/
def NameConflict.render (conflict : NameConflict) : String :=
  conflict.first.render ++ " - " ++ conflict.second.render ++
    (if conflict.sameRoot then " (same root)" else "")

/-- Why there is no index. -/
inductive SharedLibraryError where
  | duplicateNames (conflicts : List NameConflict)
  | storage (error : StorageError)
deriving DecidableEq, Repr

/-- The text of an error. -/
def SharedLibraryError.message : SharedLibraryError → String
  | .duplicateNames conflicts =>
      "Two files with the same filename exist in the shared libs: " ++
        Text.join ", " (conflicts.map NameConflict.render) ++ ". Please deduplicate."
  | .storage error => error.message

namespace SharedLibraryIndex

/-- A name has a position exactly when the file at that position carries it. -/
def Linked (entries : List SharedEntry) (positions : Dictionary String Nat) : Prop :=
  ∀ name position, positions.get? name = some position ↔
    ∃ entry, entries[position]? = some entry ∧ entry.fileName = name

theorem linked_nil : Linked [] .empty := by
  intro name position
  simp

section

variable {entries : List SharedEntry} {positions : Dictionary String Nat} {name : String}
  {position : Nat}

theorem Linked.within (linked : Linked entries positions)
    (h : positions.get? name = some position) : position < entries.length := by
  obtain ⟨entry, hentry, -⟩ := (linked name position).1 h
  exact (List.getElem?_eq_some_iff.1 hentry).1

/-- A file of a new name goes to the end. -/
theorem Linked.push (linked : Linked entries positions) {file : SharedEntry}
    (fresh : positions.get? file.fileName = none) :
    Linked (entries ++ [file]) (positions.insert file.fileName entries.length) := by
  intro name position
  rw [Dictionary.get?_insert]
  by_cases hposition : position < entries.length
  · rw [List.getElem?_append_left hposition, ← linked name position]
    split
    · next heq =>
      subst heq
      simp [fresh, Nat.ne_of_gt hposition]
    · rfl
  · have absent : positions.get? name ≠ some position := fun h => hposition (linked.within h)
    by_cases hlast : position = entries.length
    · subst hlast
      by_cases hname : file.fileName = name <;> simp [hname, absent]
    · have beyond : (entries ++ [file])[position]? = none :=
        List.getElem?_eq_none (by rw [List.length_append, List.length_singleton]; omega)
      simp only [beyond, reduceCtorEq, false_and, exists_false, iff_false]
      split
      · simpa using Ne.symm hlast
      · exact absent

theorem Linked.distinct (linked : Linked entries positions) :
    (entries.map SharedEntry.fileName).Nodup := by
  rw [List.Nodup, List.pairwise_iff_getElem]
  intro first second hfirst hsecond hlt heq
  rw [List.length_map] at hfirst hsecond
  rw [List.getElem_map, List.getElem_map] at heq
  have here := (linked entries[first].fileName first).2
    ⟨_, List.getElem?_eq_getElem hfirst, rfl⟩
  have there := (linked entries[first].fileName second).2
    ⟨_, List.getElem?_eq_getElem hsecond, heq.symm⟩
  rw [here] at there
  exact Nat.ne_of_lt hlt (Option.some.inj there)

end

end SharedLibraryIndex

/-- The shared libraries in the order in which they were found, and where each name stands among
them. -/
structure SharedLibraryIndex where
  entries : List SharedEntry
  positions : Dictionary String Nat
  linked : SharedLibraryIndex.Linked entries positions
deriving DecidableEq

namespace SharedLibraryIndex

/-- No libraries. -/
def empty : SharedLibraryIndex := ⟨[], .empty, linked_nil⟩

instance : Inhabited SharedLibraryIndex := ⟨empty⟩

/-- The library of a name. -/
def get? (index : SharedLibraryIndex) (fileName : String) : Option SharedEntry :=
  (index.positions.get? fileName).bind (index.entries[·]?)

/-- Whether there is a library of a name. -/
def contains (index : SharedLibraryIndex) (fileName : String) : Bool :=
  index.positions.contains fileName

/-- A name has the library that carries it. -/
theorem get?_eq_some {index : SharedLibraryIndex} {name : String} {entry : SharedEntry} :
    index.get? name = some entry ↔ entry ∈ index.entries ∧ entry.fileName = name := by
  rw [get?, Option.bind_eq_some_iff]
  constructor
  · rintro ⟨position, placed, found⟩
    obtain ⟨other, hother, carries⟩ := (index.linked name position).1 placed
    obtain rfl := Option.some.inj (found.symm.trans hother)
    exact ⟨List.mem_of_getElem? found, carries⟩
  · rintro ⟨within, carries⟩
    obtain ⟨position, found⟩ := List.mem_iff_getElem?.1 within
    exact ⟨position, (index.linked name position).2 ⟨entry, found, carries⟩, found⟩

/-- No two libraries have one name, so the library of a name is the first that carries it. -/
theorem get?_eq_find? (index : SharedLibraryIndex) (name : String) :
    index.get? name = index.entries.find? (·.fileName == name) := by
  cases found : index.get? name with
  | some entry =>
      obtain ⟨within, carries⟩ := get?_eq_some.1 found
      cases first : index.entries.find? (·.fileName == name) with
      | none => simpa [carries] using List.find?_eq_none.1 first entry within
      | some other =>
          have carried := get?_eq_some.2
            ⟨List.mem_of_find?_eq_some first, by simpa using List.find?_some first⟩
          rw [← found, ← carried]
  | none =>
      refine (List.find?_eq_none.2 fun entry within carries => ?_).symm
      cases found.symm.trans (get?_eq_some.2 ⟨within, by simpa using carries⟩)

theorem contains_eq (index : SharedLibraryIndex) (name : String) :
    index.contains name = (index.get? name).isSome := by
  rw [contains, Dictionary.contains, get?]
  cases placed : index.positions.get? name with
  | none => rfl
  | some position => simp [List.getElem?_eq_getElem (index.linked.within placed)]

/-- Every library has a name of its own. -/
theorem distinct (index : SharedLibraryIndex) : (index.entries.map SharedEntry.fileName).Nodup :=
  index.linked.distinct

/-! ## Sorting out names -/

/-- The files whose names are new, where each name stands among them, and the conflicts of all
other files with them. -/
structure Pass extends SharedLibraryIndex where
  conflicts : List NameConflict

namespace Pass

/-- No file yet. -/
def start : Pass := ⟨empty, []⟩

/-- One more file: it is in conflict with the first of its name, or it is the first. -/
def add (pass : Pass) (file : SharedEntry) : Pass :=
  match h : pass.positions.get? file.fileName with
  | some position =>
      let first := pass.entries.get ⟨position, pass.linked.within h⟩
      { pass with conflicts := pass.conflicts ++
          [⟨file.fileName, first.status.path, file.status.path,
            first.rootIndex == file.rootIndex⟩] }
  | none =>
      { pass with
        entries := pass.entries ++ [file]
        positions := pass.positions.insert file.fileName pass.entries.length
        linked := pass.linked.push h }

end Pass

/-- The index of files that were found, or all conflicts among them. -/
def indexOf (files : List SharedEntry) : Except SharedLibraryError SharedLibraryIndex :=
  let pass := files.foldl Pass.add .start
  if pass.conflicts.isEmpty then .ok pass.toSharedLibraryIndex
  else .error (.duplicateNames pass.conflicts)

/-! ## Scanning -/

variable {σ : Type}

/-- The files beneath one root; none when it is missing or no directory. -/
def scanRoot (storage : Storage σ) (rootIndex : Nat) (root : Location) :
    Run σ StorageError (List SharedEntry) := do
  if !(← storage.pathExists root) then return []
  if !(← storage.isDirectory root) then return []
  let files ← storage.listFiles root
  return files.map fun status => ⟨status.name, status, rootIndex⟩

/-- The files beneath all roots, the first of which has the given position. -/
def scanFrom (storage : Storage σ) : (rootIndex : Nat) → List Location →
    Run σ StorageError (List SharedEntry)
  | _, [] => return []
  | rootIndex, root :: rest => do
      let found ← scanRoot storage rootIndex root
      let others ← scanFrom storage (rootIndex + 1) rest
      return found ++ others

/-- The index of the libraries beneath the roots. -/
def build (storage : Storage σ) (roots : List Location) :
    Run σ SharedLibraryError SharedLibraryIndex := do
  let files ← (scanFrom storage 0 roots).mapError SharedLibraryError.storage
  Run.ofExcept (indexOf files)

end SharedLibraryIndex

end ArtifactStaging
