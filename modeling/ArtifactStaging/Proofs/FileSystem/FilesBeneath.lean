/-
# ArtifactStaging.Proofs.FileSystem.FilesBeneath -- the files beneath a directory

Which files lie beneath a directory is a matter of the tree alone (`FileBeneath`): names lead
down from it, from directory to directory and never through a link, to a regular file or to a
link.  A link stands for the file that it leads to from the directory it stands in (`FileAt`).

The system is asked about a link by a path through the directory, and links on the way to the
directory count with those behind it.  So what that path leads to is the file at its place
(`FileBeneath.fileAt`) if it leads anywhere, and it need not: the links may be too many
(`isFile_down_iff`).
-/
import ArtifactStaging.Proofs.FileSystem.Descending

set_option autoImplicit false

namespace ArtifactStaging

/-! ## Names in a file system -/

/-- The names of a tree are names: not empty, without slashes, and leading down. -/
def FileTree.WellNamed (tree : FileTree) : Prop :=
  ∀ place entry, tree.at? place = some entry → ∀ name ∈ place, name.Proper ∧ name.Plain

/-- The names of the entries are all the names there are. -/
theorem FileTree.wellNamed_iff {tree : FileTree} :
    tree.WellNamed ↔
      ∀ found ∈ tree.entries.entries, ∀ name ∈ found.1, name.Proper ∧ name.Plain := by
  constructor
  · rintro h ⟨place, entry⟩ hmem
    exact h place entry (Dictionary.mem_entries_iff.1 hmem)
  · intro h place entry hat
    exact h (place, entry) (Dictionary.mem_entries_iff.2 hat)

/-- What is shown of the names of a place. -/
def Place.shown (names : Place) : List String := names.map RawText.lossy

/-- What is shown of names that lead to something are names that lead down. -/
theorem FileTree.WellNamed.shown {tree : FileTree} {place names : Place} {entry : Entry}
    (wellNamed : tree.WellNamed) (here : tree.at? (place ++ names) = some entry) :
    ∀ name ∈ names.shown, name ≠ "" ∧ '/' ∉ name.toList ∧ PathText.Plain name := by
  intro shown hshown
  obtain ⟨name, hname, rfl⟩ := List.mem_map.1 hshown
  obtain ⟨proper, plain⟩ := wellNamed _ _ here name (List.mem_append_right place hname)
  exact ⟨proper.lossy.1, proper.lossy.2, RawText.plain_lossy.2 plain⟩

namespace FileSystem

variable {fs : FileSystem} {path : RawText} {place origin names : Place} {entry : Entry}
  {attributes : Attributes}

theorem pathExists_iff :
    fs.pathExists path = true ↔ ∃ place entry, fs.locate path = .ok (place, entry) := by
  unfold FileSystem.pathExists FileSystem.entry
  cases fs.locate path with
  | error cause => simp [Except.map, Except.toOption]
  | ok found =>
      obtain ⟨place, entry⟩ := found
      simp [Except.map, Except.toOption]

/-! ## Files beneath a directory -/

/-- The regular file at a place: what stands there, or what a link that stands there leads to from
its directory. -/
inductive FileAt (fs : FileSystem) (place : Place) : Entry → Prop
  | file {number : Nat} {content : Content} {attributes : Attributes}
      (here : fs.tree.at? place = some (.file number content attributes)) :
      FileAt fs place (.file number content attributes)
  | link {target : RawText} {time : Int64} {origin : Place} {number : Nat} {content : Content}
      {attributes : Attributes} (here : fs.tree.at? place = some (.link target time))
      (leads : followWithin fs.tree true linkBudget (Route.ofPath place.dropLast target) =
        .ok (.found origin (.file number content attributes))) :
      FileAt fs place (.file number content attributes)

/-- Names lead from a directory to a file: from directory to directory, never through a link, to a
regular file or to a link to one. -/
structure FileBeneath (fs : FileSystem) (place names : Place) : Prop where
  inhabited : names ≠ []
  way : ∀ before, before <+: names → before ≠ names →
    fs.tree.isDirectory (place ++ before) = true
  file : ∃ entry, fs.FileAt (place ++ names) entry

/-- Names lead from a directory to a special file. -/
structure SpecialBeneath (fs : FileSystem) (place names : Place) : Prop where
  inhabited : names ≠ []
  way : ∀ before, before <+: names → before ≠ names →
    fs.tree.isDirectory (place ++ before) = true
  special : ∃ kind attributes, fs.tree.at? (place ++ names) = some (.special kind attributes)

/-- If a link stands at a place, the system finds something by a path. -/
def Follows (fs : FileSystem) (path : RawText) (place : Place) : Prop :=
  ∀ target time, fs.tree.at? place = some (.link target time) → fs.pathExists path = true

/-! ## Paths through a directory -/

/-- The route of a path beneath another goes on with the names that lead there. -/
theorem route_down (base : Place) (path : RawText) (inhabited : names ≠ [])
    (proper : ∀ name ∈ names, name.Proper) :
    Route.ofPath base (path.down names) =
      ⟨(Route.ofPath base path).start, (Route.ofPath base path).names ++ names, false⟩ := by
  simp only [Route.ofPath, RawText.endsInSlash_down proper inhabited,
    RawText.isAbsolute_down proper, RawText.names_down proper]

/-- A path through a directory leads to what its names lead to from there. -/
theorem followWithin_of_down (led : fs.locate path = .ok (place, .directory attributes))
    (inhabited : names ≠ []) (proper : ∀ name ∈ names, name.Proper)
    (reached : fs.locate (path.down names) = .ok (origin, entry)) :
    followWithin fs.tree true linkBudget ⟨place, names, false⟩ = .ok (.found origin entry) := by
  obtain ⟨-, hled⟩ := locate_ok_iff.1 led
  obtain ⟨-, further⟩ := locate_ok_iff.1 reached
  rw [route_down _ _ inhabited proper] at further
  exact followWithin_of_append inhabited hled further

/-- A path through what is neither a directory nor a link leads nowhere. -/
theorem locate_behind_leaf {name : RawText} {found : Entry}
    (led : fs.locate path = .ok (place, found)) (ends : found.IsLeaf) (proper : name.Proper)
    (plain : name.Plain) : fs.locate (path.down [name]) ≠ .ok (origin, entry) := by
  intro reached
  obtain ⟨-, hled⟩ := locate_ok_iff.1 led
  obtain ⟨-, further⟩ := locate_ok_iff.1 reached
  rw [route_down _ _ (by simp) (by simpa using proper)] at further
  exact followWithin_behind_leaf plain ends _ _ hled further

/-- From directory to directory, a path leads to what stands where its names lead, or to what a
link that stands there leads to from its directory. -/
theorem reached_down {standing : Entry} (wellNamed : fs.tree.WellNamed)
    (led : fs.locate path = .ok (place, .directory attributes)) (inhabited : names ≠ [])
    (way : ∀ before, before <+: names → before ≠ names →
      fs.tree.isDirectory (place ++ before) = true)
    (here : fs.tree.at? (place ++ names) = some standing)
    (reached : fs.locate (path.down names) = .ok (origin, entry)) :
    ((∀ text time, standing ≠ .link text time) ∧ entry = standing) ∨
      ∃ text time, standing = .link text time ∧
        followWithin fs.tree true linkBudget (Route.ofPath (place ++ names).dropLast text) =
          .ok (.found origin entry) := by
  have named : ∀ name ∈ names, name.Proper ∧ name.Plain :=
    fun name hname => wellNamed _ _ here name (List.mem_append_right place hname)
  have further :=
    followWithin_of_down led inhabited (fun name hname => (named name hname).1) reached
  obtain hnil | ⟨front, last, rfl⟩ := List.eq_nil_or_concat names
  · exact absurd hnil inhabited
  rw [List.concat_eq_append] at *
  have through : ∀ before, before <+: front → fs.tree.isDirectory (place ++ before) = true := by
    intro before above
    refine way before (above.trans (List.prefix_append front [last])) ?_
    rintro rfl
    have := above.length_le
    simp at this
  have plain : ∀ name ∈ front, name.Plain := fun name hname => (named name (by simp [hname])).2
  have fromLast := followWithin_last plain through further
  rw [← List.append_assoc] at here ⊢
  rw [List.dropLast_concat]
  rcases followWithin_name (named last (by simp)).2 here fromLast with ⟨noLink, found⟩ | onward
  · cases found
    exact .inl ⟨noLink, rfl⟩
  · exact .inr onward

/-- **The file that a path through a directory leads to** is the one at its place beneath the
directory. -/
theorem FileBeneath.fileAt (beneath : fs.FileBeneath place names) (wellNamed : fs.tree.WellNamed)
    (led : fs.locate path = .ok (place, .directory attributes))
    (reached : fs.locate (path.down names) = .ok (origin, entry)) :
    fs.FileAt (place ++ names) entry := by
  obtain ⟨inhabited, way, file, fileAt⟩ := beneath
  cases fileAt with
  | file here =>
      rcases reached_down wellNamed led inhabited way here reached with
        ⟨-, rfl⟩ | ⟨text, time, link, -⟩
      · exact .file here
      · cases link
  | link here leads =>
      rcases reached_down wellNamed led inhabited way here reached with
        ⟨noLink, -⟩ | ⟨text, time, link, onward⟩
      · exact absurd rfl (noLink _ _)
      · cases link
        cases leads.symm.trans onward
        exact .link here leads

/-- By its path a link is one to a regular file exactly if it is one at its place and the path
leads anywhere. -/
theorem isFile_down_iff {target : RawText} {time : Int64} (wellNamed : fs.tree.WellNamed)
    (led : fs.locate path = .ok (place, .directory attributes)) (inhabited : names ≠ [])
    (way : ∀ before, before <+: names → before ≠ names →
      fs.tree.isDirectory (place ++ before) = true)
    (link : fs.tree.at? (place ++ names) = some (.link target time)) :
    fs.isFile (path.down names) = true ↔
      (∃ entry, fs.FileAt (place ++ names) entry) ∧ fs.pathExists (path.down names) = true := by
  have onward {origin : Place} {entry : Entry}
      (reached : fs.locate (path.down names) = .ok (origin, entry)) :
      followWithin fs.tree true linkBudget (Route.ofPath (place ++ names).dropLast target) =
        .ok (.found origin entry) := by
    rcases reached_down wellNamed led inhabited way link reached with
      ⟨noLink, -⟩ | ⟨text, time, same, further⟩
    · exact absurd rfl (noLink _ _)
    · cases same
      exact further
  constructor
  · intro file
    obtain ⟨origin, number, content, attributes, reached⟩ := isFile_iff.1 file
    exact ⟨⟨_, .link link (onward reached)⟩, pathExists_iff.2 ⟨_, _, reached⟩⟩
  · rintro ⟨⟨entry, fileAt⟩, found⟩
    obtain ⟨origin, other, reached⟩ := pathExists_iff.1 found
    cases fileAt with
    | file here => cases link.symm.trans here
    | link here leads =>
        cases link.symm.trans here
        cases leads.symm.trans (onward reached)
        exact isFile_iff.2 ⟨_, _, _, _, reached⟩

end FileSystem

end ArtifactStaging
