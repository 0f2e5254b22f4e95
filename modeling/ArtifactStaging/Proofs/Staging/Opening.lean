/-
# ArtifactStaging.Proofs.Staging.Opening -- what an opened uploader can rely on

Opening makes the application's directory, unless something is there, and then finds the shared
libraries by looking.  So when it answers:

* every library is a file beneath the root that it counts for, with the name, the size and the
  time of that file, and if its names are text looking at its path shows so, then and there
  (`SharedEntry.Stands`);
* nothing is registered;
* the application's directory is a directory, if opening made it, since making fails otherwise.

What was there before opening is not asked whether it is a directory.  If it is none, the location
is `Occupied`, opening answers all the same and leaves it so (`usable_of_open?`): the one
case in which there is no directory to stage to.

Libraries are looked at on the disk that opening left, so that the names of its tree must be names
still: directories are made under the names of paths and of links (`wellNamed_of_makeDirectories`).
-/
import ArtifactStaging.Proofs.FileSystem.Making
import ArtifactStaging.Proofs.Staging.Confinement
import ArtifactStaging.Proofs.Staging.Libraries
import ArtifactStaging.Proofs.Staging.Repetition
import ArtifactStaging.Proofs.Storage.RecursiveListing

set_option autoImplicit false

namespace ArtifactStaging

/-! ## Names stay names -/

/-- What is put under a name leaves the names of a tree names. -/
theorem FileTree.WellNamed.put {tree : FileTree} {place : Place} {entry : Entry}
    (wellNamed : tree.WellNamed)
    (named : ∀ name, place.getLast? = some name → name.Proper ∧ name.Plain) :
    (tree.put place entry).WellNamed := by
  intro other found here name hname
  by_cases admits : tree.admits place entry = true
  · rw [at?_put admits] at here
    split at here
    · next heq =>
      subst heq
      -- The names above are those of the directory that holds the place.
      have held : tree.isDirectory place.dropLast = true := (Bool.and_eq_true_iff.1 admits).1
      obtain ⟨attributes, above⟩ := exists_of_isDirectory held
      obtain rfl | ⟨front, last, rfl⟩ := List.eq_nil_or_concat place
      · cases hname
      rw [List.concat_eq_append] at *
      rw [List.dropLast_concat] at above
      rcases List.mem_append.1 hname with inFront | isLast
      · exact wellNamed _ _ above name inFront
      · obtain rfl := List.mem_singleton.1 isLast
        exact named name (by simp)
    · obtain ⟨old, before, -⟩ := Option.map_eq_some_iff.1 here
      exact wellNamed _ _ before name hname
  · rw [FileTree.put, dif_neg admits] at here
    exact wellNamed _ _ here name hname

namespace FileSystem

variable {fs next : FileSystem} {path : RawText} {place : Place} {entry : Entry} {mode : UInt32}

theorem wellNamed_touch (wellNamed : fs.tree.WellNamed) (place : Place) :
    (fs.touch place).tree.WellNamed := by
  unfold touch
  split
  · next here =>
    exact wellNamed.put fun name hname => wellNamed _ _ here name (List.mem_of_getLast? hname)
  · exact wellNamed

theorem wellNamed_of_makeDirectory (wellNamed : fs.tree.WellNamed)
    (made : fs.makeDirectory path = .ok next) : next.tree.WellNamed := by
  simp only [makeDirectory, Except.bind_ok_iff] at made
  obtain ⟨target, led, made⟩ := made
  cases target with
  | found place entry => cases made
  | missing place slash =>
      cases made
      obtain ⟨-, -, missing⟩ := Except.bind_ok_iff.1 led
      obtain ⟨above, name, rfl, good⟩ :=
        followWithin_missing _ _ _ (fun _ hname => RawText.proper_of_mem_names hname) missing
      refine wellNamed_touch (wellNamed.put fun other hother => ?_) _
      obtain rfl : name = other := by simpa using hother
      exact good

theorem wellNamed_of_setMode (wellNamed : fs.tree.WellNamed)
    (set : fs.setMode path mode = .ok next) : next.tree.WellNamed := by
  obtain ⟨place, old, entry, led, -, rfl⟩ := put_of_setMode set
  exact wellNamed.put fun name hname =>
    wellNamed _ _ (holds_of_locate led) name (List.mem_of_getLast? hname)

end FileSystem

namespace Disk

variable {root : String} {disk after : Disk} {location : Location} {permission : Permission}

theorem wellNamed_of_makeDirectories (wellNamed : disk.files.tree.WellNamed)
    (h : ((storage root).makeDirectories location permission).outcome disk = (.ok (), after)) :
    after.files.tree.WellNamed := by
  change makeDirectories root location permission disk = _ at h
  have made : (disk.files.createDirectories (resolve root location)).1.tree.WellNamed :=
    FileSystem.createDirectories_preserves (P := fun files => files.tree.WellNamed)
      (fun _ _ _ => FileSystem.wellNamed_of_makeDirectory) _ wellNamed
  unfold makeDirectories at h
  dsimp only at h
  split at h
  · cases h
  split at h
  · cases h
  next set =>
    cases h
    exact FileSystem.wellNamed_of_setMode made set

/-! ## Locations without a directory -/

/-- Something is at a location, and it is no directory. -/
def Occupied (root : String) (disk : Disk) (location : Location) : Prop :=
  ((storage root).pathExists location).outcome disk = (.ok true, disk) ∧
    ((storage root).isDirectory location).outcome disk = (.ok false, disk)

theorem isDirectory_ok_iff {directory : Bool} :
    ((storage root).isDirectory location).outcome disk = (.ok directory, disk) ↔
      ∃ found, disk.probe root location = .ok found ∧
        found.any Entry.isDirectory = directory := by
  change ((disk.probe root location).map (·.any Entry.isDirectory), disk) = _ ↔ _
  simp [Except.map_ok_iff]

theorem occupied_iff : Occupied root disk location ↔
    ∃ entry, disk.probe root location = .ok (some entry) ∧ entry.isDirectory = false := by
  rw [Occupied, pathExists_true_iff, isDirectory_ok_iff]
  constructor
  · rintro ⟨⟨⟨entry, found⟩, -⟩, _, found', other⟩
    cases found.symm.trans found'
    exact ⟨entry, found, other⟩
  · rintro ⟨entry, found, other⟩
    exact ⟨⟨⟨entry, found⟩, rfl⟩, _, found, other⟩

end Disk

/-! ## Libraries on a disk -/

/-- A library is a file beneath the root that it counts for: at least one name leads to it from the
directory that the root is, from directory to directory.  Its status is that of the file, under the
path of the root with what is shown of the names joined to it, and it goes by the last name of that
path; if the names are text, looking at the path shows the status. -/
structure SharedEntry.Stands (root : String) (roots : List Location) (disk : Disk)
    (entry : SharedEntry) : Prop where
  named : entry.fileName = entry.status.name
  regular : entry.status.isDirectory = false
  beneath : ∃ base place attributes names found, roots[entry.rootIndex]? = some base ∧
    disk.files.locate (Disk.resolve root base) = .ok (place, .directory attributes) ∧
    disk.files.FileBeneath place names ∧ disk.files.FileAt (place ++ names) found ∧
    (∀ name ∈ names, name.Proper ∧ name.Plain) ∧
    entry.status = Disk.statusOf (base.join (Text.join "/" names.shown)) found ∧
    (base.Normal → base.relativize? entry.status.path = some (Text.join "/" names.shown)) ∧
    ((∀ name ∈ names, name.IsText) →
      ((Disk.storage root).stat entry.status.path).outcome disk = (.ok entry.status, disk))

namespace SharedLibraryIndex

variable {root : String} {roots : List Location} {base : Location} {disk after : Disk}
  {files : List FileStatus} {found : List (List FileStatus)} {status : FileStatus}
  {entry : SharedEntry} {index : SharedLibraryIndex} {position rootIndex : Nat}

theorem Finds.unchanged (finds : Finds (Disk.storage root) base files disk after) :
    after = disk := by
  cases finds with
  | missing absent => exact Disk.OnlyLooks.pathExists.unchanged absent
  | noDirectory present other =>
      obtain rfl := Disk.OnlyLooks.pathExists.unchanged present
      exact Disk.OnlyLooks.isDirectory.unchanged other
  | directory present directory listed =>
      obtain rfl := Disk.OnlyLooks.pathExists.unchanged present
      obtain rfl := Disk.OnlyLooks.isDirectory.unchanged directory
      exact Disk.OnlyLooks.listFiles.unchanged listed

/-- What is found on a disk in one pass over the roots is found beneath each root by itself. -/
theorem Surveys.finds (survey : Surveys (Disk.storage root) roots found disk after)
    (h : found[position]? = some files) :
    ∃ base, roots[position]? = some base ∧
      Finds (Disk.storage root) base files disk disk := by
  induction survey generalizing position with
  | nil s => cases h
  | cons first others ih =>
      obtain rfl := first.unchanged
      cases position with
      | zero =>
          cases h
          exact ⟨_, rfl, first⟩
      | succ position => exact ih h

theorem mem_tagged : entry ∈ tagged found rootIndex ↔
    ∃ position files, found[position]? = some files ∧ entry.status ∈ files ∧
      entry.fileName = entry.status.name ∧ entry.rootIndex = rootIndex + position := by
  simp only [tagged, List.mem_flatMap, List.mem_map, Prod.exists]
  constructor
  · rintro ⟨files, index, tagged, status, inside, rfl⟩
    obtain ⟨above, hfiles⟩ := List.mem_zipIdx_iff_le_and_getElem?_sub.1 tagged
    exact ⟨index - rootIndex, files, hfiles, inside, rfl, (Nat.add_sub_cancel' above).symm⟩
  · rintro ⟨position, files, hfiles, inside, hname, hindex⟩
    refine ⟨files, rootIndex + position, ?_, entry.status, inside, ?_⟩
    · refine List.mem_zipIdx_iff_le_and_getElem?_sub.2 ⟨Nat.le_add_right _ _, ?_⟩
      rwa [Nat.add_sub_cancel_left]
    · rw [← hname, ← hindex]

theorem exists_of_forall₂ {α β : Type} {R : α → β → Prop} {xs : List α} {ys : List β}
    (h : List.Forall₂ R xs ys) {y : β} (hy : y ∈ ys) : ∃ x ∈ xs, R x y := by
  induction h with
  | nil => cases hy
  | cons first others ih =>
      rcases List.mem_cons.1 hy with rfl | hrest
      · exact ⟨_, List.mem_cons_self, first⟩
      · obtain ⟨x, hx, related⟩ := ih hrest
        exact ⟨x, List.mem_cons_of_mem _ hx, related⟩

/-- A file that is found beneath a root stands there. -/
theorem stands_of_finds (wellNamed : disk.files.tree.WellNamed)
    (finds : Finds (Disk.storage root) base files disk disk) (inside : entry.status ∈ files)
    (named : entry.fileName = entry.status.name)
    (counted : roots[entry.rootIndex]? = some base) : entry.Stands root roots disk := by
  cases finds with
  | missing absent => cases inside
  | noDirectory present other => cases inside
  | directory present directory listed =>
      obtain rfl := (Disk.OnlyLooks.pathExists.unchanged present).symm
      obtain rfl := (Disk.OnlyLooks.isDirectory.unchanged directory).symm
      obtain ⟨seen, probed, hdirectory⟩ := Disk.isDirectory_ok_iff.1 directory
      rw [Disk.probe_directory probed] at hdirectory
      obtain ⟨place, attributes, led⟩ := FileSystem.isDirectory_iff.1 hdirectory
      have answered : disk.listFiles root base = .ok files := (Prod.mk.inj listed).1
      have looks := Disk.forall₂_of_listFiles answered led
      obtain ⟨names, -, ships, found, looked, hstatus⟩ := exists_of_forall₂
        ((List.forall₂_and_left _ _).2 ⟨fun names ships => ships, looks⟩) inside
      have fileAt := Disk.fileAt_of_shipping wellNamed led ships looked
      refine ⟨named, ?_, base, place, attributes, names, found, counted, led,
        ((FileSystem.mem_shipping_false_iff wellNamed led).1 ships).1, fileAt,
        ((FileSystem.mem_shipping_iff led).1 ships).wellNamed wellNamed, hstatus, ?_, ?_⟩
      · rw [hstatus]
        cases fileAt <;> rfl
      · intro normal
        rw [hstatus]
        exact Disk.relativize?_of_shipping normal wellNamed ships
      · intro text
        change (disk.stat root entry.status.path, disk) = _
        rw [hstatus]
        exact congrArg (·, disk) (Disk.stat_of_shipping wellNamed led ships looked text)

theorem stands_of_build (wellNamed : disk.files.tree.WellNamed)
    (h : (build (Disk.storage root) roots).outcome disk = (.ok index, disk)) :
    ∀ entry ∈ index.entries, entry.Stands root roots disk := by
  simp only [build, Run.bind_ok_iff, Run.mapError_ok_iff, Run.ofExcept_ok_iff,
    scanFrom_ok_iff] at h
  obtain ⟨_, after, ⟨found, survey, rfl⟩, indexed, rfl⟩ := h
  have hentries := entries_of_indexOf indexed
  intro entry hentry
  rw [hentries, mem_tagged] at hentry
  obtain ⟨position, files, hfiles, inside, named, hindex⟩ := hentry
  obtain ⟨base, hbase, finds⟩ := survey.finds hfiles
  rw [Nat.zero_add] at hindex
  exact stands_of_finds wellNamed finds inside named (hindex ▸ hbase)

end SharedLibraryIndex

/-! ## Opened uploaders -/

namespace Uploader

open Disk

variable {root : String} {home : Location} {roots : List Location}
  {applicationId : ApplicationId} {options : StagingOptions} {uploader : Uploader}
  {disk opened : Disk}

/-- **An opened uploader.**  When opening answers, on whatever disk and with whatever home directory
and roots, nothing is registered, and every shared library is a file strictly beneath the root that
it counts for, with the name, the size and the time of that file, which looking at its path shows if
the names beneath the root are text.  The application's directory is a directory unless its location
was occupied before; then the disk is left as it was. -/
theorem usable_of_open? (wellNamed : disk.files.tree.WellNamed)
    (h : (open? (Disk.host root) home roots applicationId options).outcome disk =
      (.ok uploader, opened)) :
    uploader.applicationDirectory =
        ArtifactStaging.applicationDirectory home options.space applicationId ∧
      (((storage root).isDirectory uploader.applicationDirectory).outcome opened =
          (.ok true, opened) ↔ ¬ Occupied root disk uploader.applicationDirectory) ∧
      (Occupied root disk uploader.applicationDirectory → opened = disk) ∧
      (Submission.start opened).resources = .empty ∧
      ∀ entry ∈ uploader.shared.entries, entry.Stands root roots opened := by
  obtain ⟨directory, shared, hdirectory, way, hshared, rfl⟩ := open?_ok_iff.1 h
  dsimp only
  rw [isDirectory_ok_iff, occupied_iff]
  rcases way with ⟨⟨entry, found⟩, rfl⟩ | ⟨absent, made⟩
  · refine ⟨hdirectory, ⟨?_, fun free => ?_⟩, fun _ => rfl, rfl,
      SharedLibraryIndex.stands_of_build wellNamed hshared⟩
    · rintro ⟨_, found', yes⟩ ⟨_, found'', no⟩
      cases found'.symm.trans found''
      rw [Option.any_some, no] at yes
      cases yes
    · refine ⟨_, found, ?_⟩
      by_contra other
      exact free ⟨entry, found, by simpa using other⟩
  · obtain ⟨mode, there⟩ := probe_of_makeDirectories made
    have free : ¬ Occupied root disk directory := fun occupied => by
      rw [occupied.1] at absent
      cases absent
    rw [occupied_iff] at free
    exact ⟨hdirectory, ⟨fun _ => free, fun _ => ⟨_, there, rfl⟩⟩,
      fun occupied => absurd occupied free, rfl,
      SharedLibraryIndex.stands_of_build (wellNamed_of_makeDirectories wellNamed made) hshared⟩

end Uploader

namespace Sample

/-- The machine has no `h` before, and one library. -/
theorem usable_of_open?_sample :
    disk.files.tree.WellNamed ∧
      openAt (here "h") = (.ok (uploader (here "h")), (openAt (here "h")).2) ∧
      ((Disk.storage "r").isDirectory (here "h/.n/i")).outcome (openAt (here "h")).2 =
        (.ok true, (openAt (here "h")).2) ∧
      ∀ entry ∈ shared.entries, entry.Stands "r" [there "/l"] (openAt (here "h")).2 := by
  have wellNamed : disk.files.tree.WellNamed := FileTree.wellNamed_iff.2 (by decide)
  have run := openAt_eq library_found
  obtain ⟨-, usable, -, -, stands⟩ := Uploader.usable_of_open? wellNamed run
  have place : (uploader (here "h")).applicationDirectory = here "h/.n/i" := by decide
  have nothing : disk.probe "r" (here "h/.n/i") = .ok none := by decide
  rw [place] at usable
  refine ⟨wellNamed, run, usable.2 fun occupied => ?_, stands⟩
  obtain ⟨entry, found, -⟩ := Disk.occupied_iff.1 occupied
  cases nothing.symm.trans found

/-- A disk with a file where the application's directory goes. -/
def squatter : Disk :=
  ⟨⟨treeOf [(["h"], directory), (["h", ".n"], directory), (["h", ".n", "i"], file [120])],
    [], 7, 1⟩, []⟩

/-- Opening takes a file for the application's directory. -/
theorem open?_occupied :
    ∃ uploader, (Uploader.open? host (here "h") [] applicationId options).outcome squatter =
        (.ok uploader, squatter) ∧
      uploader.applicationDirectory = here "h/.n/i" ∧
      ((Disk.storage "r").isDirectory uploader.applicationDirectory).outcome squatter =
        (.ok false, squatter) := by
  have place : applicationDirectory (here "h") "n" applicationId = here "h/.n/i" := by
    decide
  have found : squatter.probe "r" (here "h/.n/i") = .ok (some (numbered 1 (file [120]))) := by
    decide
  refine ⟨⟨here "h", applicationId, here "h/.n/i", .empty, options⟩, ?_, rfl, ?_⟩
  · exact Uploader.open?_ok_iff.2 ⟨_, .empty, place.symm, .inl ⟨⟨_, found⟩, rfl⟩, rfl, rfl⟩
  · exact Disk.isDirectory_ok_iff.2 ⟨_, found, rfl⟩

end Sample

end ArtifactStaging
