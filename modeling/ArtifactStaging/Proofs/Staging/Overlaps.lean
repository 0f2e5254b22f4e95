/-
# ArtifactStaging.Proofs.Staging.Overlaps -- what a classpath lists twice

A classpath is two sets one after the other, the directories of the files that are no archives and
the archives.  Each of them names a text once, so a text stands on the classpath twice at most, and
it does exactly if it is in both sets: one file is an archive that goes there, and another goes
into a directory of that name (`Classpath.Overlap`, `IsLayout.count_eq_two_iff`).

On a disk the archive would be a file at the path of the directory.  If both files were uploaded,
the one is a file and the other lies behind it, which no path leads to.  So one of the two is
remote and was left where it is: `registerMany_repeats` puts both together, and
`registerMany_lists_twice` has a directory that is called like a remote archive.
-/
import ArtifactStaging.Proofs.Staging.Determinism
import ArtifactStaging.Proofs.Staging.StagedPaths
import ArtifactStaging.Proofs.Storage.Resolving
import Mathlib.Data.List.Nodup

set_option autoImplicit false

namespace ArtifactStaging

/-! ## Counting -/

namespace Classpath

/-- An archive and a file that is none put the same text on a classpath: it is the destination of
the archive and the directory of the other file. -/
structure Overlap (archive other : PlanEntry) (text : String) : Prop where
  archived : isArchive archive.destination = true
  destination : archive.destination = text
  unarchived : isArchive other.destination = false
  directory : other.directory = text

variable {classpath : List String} {entries : List PlanEntry}

theorem IsLayout.count_le_two (layout : IsLayout classpath entries) (text : String) :
    classpath.count text ≤ 2 := by
  obtain ⟨directories, archives, rfl, hdirectories, harchives⟩ := layout
  rw [List.count_append]
  exact Nat.add_le_add (List.nodup_iff_count_le_one.1 hdirectories.nodup text)
    (List.nodup_iff_count_le_one.1 harchives.nodup text)

theorem IsLayout.count_eq_two_iff (layout : IsLayout classpath entries) (text : String) :
    classpath.count text = 2 ↔ ∃ archive ∈ entries, ∃ other ∈ entries,
      Overlap archive other text := by
  obtain ⟨directories, archives, rfl, hdirectories, harchives⟩ := layout
  have both : (directories ++ archives).count text = 2 ↔ text ∈ directories ∧ text ∈ archives := by
    rw [List.count_append, hdirectories.nodup.count, harchives.nodup.count]
    split <;> split <;> simp_all
  rw [both, hdirectories.mem_iff, harchives.mem_iff]
  constructor
  · rintro ⟨⟨other, hother, unarchived, hdirectory⟩, archive, harchive, archived, hdestination⟩
    exact ⟨archive, harchive, other, hother, archived, hdestination, unarchived, hdirectory⟩
  · rintro ⟨archive, harchive, other, hother, overlap⟩
    exact ⟨⟨other, hother, overlap.unarchived, overlap.directory⟩,
      archive, harchive, overlap.archived, overlap.destination⟩

end Classpath

/-! ## Uploaded files -/

namespace Uploader

open Classpath

variable {root logicalRoot : String} {uploader : Uploader} {inputs : List Location}
  {replication : UInt16} {classpath : List String} {archive other entry : PlanEntry}
  {text : String}

section

variable {σ : Type} {host : Host σ} {key directory : String} {source : Location}
  {s t : Submission σ} {registration : Registration}

/-- A local file that no shared library stands in for is uploaded. -/
theorem Registers.exists_uploaded
    (registers : Registers host uploader key source directory replication s registration t)
    (here : source.isRemote = false) (free : uploader.shadows source = false) :
    ∃ descriptor, registration = .uploaded descriptor := by
  have own := registers.isPrivate_eq
  rw [free, Bool.not_false] at own
  cases registers with
  | alreadyRemote remote found =>
      rw [Location.localPath?_eq_none.1 remote] at here
      cases here
  | reusedShared here shadow => cases own
  | uploaded here free seen named copied => exact ⟨_, rfl⟩

theorem Registrations.exists_uploaded {done : List (PlanEntry × Registration)}
    (run : Registrations host uploader replication s done t) (inside : entry ∈ done.map Prod.fst)
    (here : entry.source.isRemote = false) (free : uploader.shadows entry.source = false) :
    ∃ descriptor u v, (entry, .uploaded descriptor) ∈ done ∧
      Registers host uploader entry.destination entry.source entry.directory replication u
        (.uploaded descriptor) v := by
  obtain ⟨⟨_, registration⟩, hone, rfl⟩ := List.mem_map.1 inside
  obtain ⟨u, v, registers⟩ := run.registers _ hone
  obtain ⟨descriptor, rfl⟩ := registers.exists_uploaded here free
  exact ⟨descriptor, u, v, hone, registers⟩

end

variable {s t : Submission Disk}

/-- Of two files of a run on a disk that overlap, not both are local. -/
theorem Registrations.isRemote_of_overlap {disk : Disk} {input : Location}
    {done : List (PlanEntry × Registration)}
    (run : Registrations (Disk.host root) uploader replication s done t)
    (normal : input.Normal) (wellNamed : disk.files.tree.WellNamed)
    (brings : Plan.Brings root logicalRoot disk input archive)
    (harchive : archive ∈ done.map Prod.fst) (hother : other ∈ done.map Prod.fst)
    (free : uploader.shadows archive.source = false)
    (free' : uploader.shadows other.source = false) (overlap : Overlap archive other text) :
    archive.source.isRemote = true ∨ other.source.isRemote = true := by
  by_contra both
  rw [not_or, Bool.not_eq_true, Bool.not_eq_true] at both
  obtain ⟨descriptor, u, v, staged, registers⟩ := run.exists_uploaded harchive both.1 free
  obtain ⟨descriptor', u', v', staged', registers'⟩ := run.exists_uploaded hother both.2 free'
  obtain ⟨place, found, led, leaf⟩ := run.leadsToLeaf staged
  obtain ⟨place', found', led', -⟩ := run.leadsToLeaf staged'
  have key : descriptor.key = archive.destination := registers.key_of_isPrivate rfl
  obtain ⟨hpath, -⟩ := path_of_uploaded normal wellNamed brings registers
  rw [key, overlap.destination, ← overlap.directory] at hpath
  cases registers' with
  | @uploaded _ fileName _ _ _ here free seen other named copied =>
      -- The path of the other file goes through the archive.
      obtain ⟨plain, hnames⟩ := PathText.names_of_fileName? named
      obtain ⟨written, whole⟩ := PathText.mem_names (hnames ▸ List.mem_singleton_self fileName)
      have proper : ∀ name ∈ [RawText.of fileName], name.Proper := by
        simpa using RawText.proper_of.2 ⟨written, whole⟩
      have shown : Text.join "/" (Place.shown [RawText.of fileName]) = fileName := by
        rw [Place.shown, List.map_singleton, RawText.lossy_of]
        rfl
      have inside := (Disk.resolve_join_eq_iff (FileSystem.ne_empty_of_locate led)
        (List.cons_ne_nil _ _) proper).2 (by simpa using RawText.isText_of fileName)
      rw [shown, hpath] at inside
      dsimp only [destinationOf] at led'
      rw [inside, ← hpath] at led'
      exact FileSystem.locate_behind_leaf led leaf (proper _ List.mem_cons_self)
        (RawText.plain_of.2 plain) led'

/-- **What a classpath lists twice.**  The classpath of a bulk registration on a disk is directories
and then archives.  No text is listed twice in either of the two parts, and none more than twice
in all.  A text is listed twice exactly if it is the destination of an archive and the directory of
a file that is no archive, both of them listed: brought by an input, taken, and not replaced by a
shared library.  For inputs that were read, one of these two files is remote. -/
theorem registerMany_repeats
    (h : (uploader.registerMany (Disk.host root) inputs logicalRoot replication).outcome s =
      (.ok classpath, t)) :
    (∃ directories archives, classpath = directories ++ archives ∧ directories.Nodup ∧
      archives.Nodup) ∧
    (∀ text, classpath.count text ≤ 2 ∧
      (classpath.count text = 2 ↔ ∃ archive other,
        Lists root logicalRoot uploader s.world inputs archive ∧
        Lists root logicalRoot uploader s.world inputs other ∧ Overlap archive other text)) ∧
    ((∀ input ∈ inputs, input.Normal) → s.world.files.tree.WellNamed →
      ∀ archive other text, Lists root logicalRoot uploader s.world inputs archive →
        Lists root logicalRoot uploader s.world inputs other → Overlap archive other text →
        archive.source.isRemote = true ∨ other.source.isRemote = true) := by
  obtain ⟨entries, layout, mem⟩ := registerMany_disk_layout h
  refine ⟨?_, fun text => ⟨layout.count_le_two text, ?_⟩, ?_⟩
  · obtain ⟨directories, archives, hclasspath, hdirectories, harchives⟩ := layout
    exact ⟨directories, archives, hclasspath, hdirectories.nodup, harchives.nodup⟩
  · rw [layout.count_eq_two_iff]
    simp only [mem]
    constructor
    · rintro ⟨archive, harchive, other, hother, overlap⟩
      exact ⟨archive, other, harchive, hother, overlap⟩
    · rintro ⟨archive, other, harchive, hother, overlap⟩
      exact ⟨archive, harchive, other, hother, overlap⟩
  · intro normal wellNamed archive other text harchive hother overlap
    obtain ⟨-, plan, world, done, planned, run, hdone, -⟩ := registerMany_ok_iff.1 h
    have inside (entry) (listed : Lists root logicalRoot uploader s.world inputs entry) :
        entry ∈ done.map Prod.fst := by
      rw [hdone, List.mem_filter]
      exact ⟨(Plan.mem_ofInputs_disk planned).2 listed.brought, listed.taken⟩
    obtain ⟨input, hinput, brings⟩ := harchive.brought
    exact run.isRemote_of_overlap (normal input hinput) wellNamed brings (inside _ harchive)
      (inside _ hother) harchive.unshadowed hother.unshadowed overlap

end Uploader

namespace Sample

/-- A disk with a directory and a remote file of one name, which is that of an archive. -/
def jars : Disk :=
  ⟨⟨treeOf [(["x.jar"], directory), (["x.jar", "f"], file [1]), (["r"], directory),
    (["r", "h"], directory), (["r", "h", "_"], directory), (["r", "h", "_", "x.jar"], file [2])],
    [], 7, 1⟩, []⟩

/-- The submission after the application was opened, without shared libraries. -/
def started : Submission Disk :=
  .start ((Uploader.open? host (here "h") [] applicationId options).outcome jars).2

/-- The uploader that was opened. -/
def lone : Uploader :=
  ⟨here "h", applicationId, applicationDirectory (here "h") options.space applicationId, .empty,
    options⟩

/-- Both the directory and the remote file are registered. -/
def twice : Except StagingError (List String) × Submission Disk :=
  (lone.registerMany host [here "x.jar", there "/x.jar"] "l" 1).outcome started

theorem twice_eq : (lone.registerMany host [here "x.jar", there "/x.jar"] "l" 1).outcome
    started = (.ok ["l/x.jar", "l/x.jar"], twice.2) :=
  Run.outcome_eq_of_toOption (by decide +kernel)

/-- One of the two files that are listed under one name is remote. -/
theorem registerMany_repeats_sample :
    ∃ archive other, Classpath.Overlap archive other "l/x.jar" ∧
      Uploader.Lists "r" "l" lone started.world [here "x.jar", there "/x.jar"] archive ∧
      Uploader.Lists "r" "l" lone started.world [here "x.jar", there "/x.jar"] other ∧
      (archive.source.isRemote = true ∨ other.source.isRemote = true) := by
  obtain ⟨-, counts, apart⟩ := Uploader.registerMany_repeats twice_eq
  obtain ⟨archive, other, listed, listed', overlap⟩ := (counts "l/x.jar").2.1 (by decide)
  have read : Location.parse? "x.jar" = some (here "x.jar") := by decide
  have read' : Location.parse? "h:///x.jar" = some (there "/x.jar") := by decide
  have normal : ∀ input ∈ [here "x.jar", there "/x.jar"], input.Normal := by
    simpa using ⟨Location.normal_of_parse? read, Location.normal_of_parse? read'⟩
  have wellNamed : started.world.files.tree.WellNamed :=
    FileTree.wellNamed_iff.2 (by decide)
  exact ⟨archive, other, overlap, listed, listed',
    apart normal wellNamed archive other _ listed listed' overlap⟩

/-- The directory is listed, and then the archive, under one name. -/
theorem registerMany_lists_twice :
    ∃ uploader after classpath t,
      (Uploader.open? host (here "h") [] applicationId options).outcome jars =
        (.ok uploader, after) ∧
      (uploader.registerMany host [here "x.jar", there "/x.jar"] "l" 1).outcome (.start after) =
        (.ok classpath, t) ∧ classpath = ["l/x.jar", "l/x.jar"] ∧ ¬ classpath.Nodup := by
  have found : ((Uploader.open? host (here "h") [] applicationId options).outcome
      jars).1.toOption.map Uploader.shared = some .empty := by decide
  obtain ⟨uploader, answered, hshared⟩ := Option.map_eq_some_iff.1 found
  have hopened := Run.outcome_eq_of_toOption answered
  have heq := Uploader.eq_of_open? hopened
  rw [hshared] at heq
  subst heq
  exact ⟨_, _, _, _, hopened, twice_eq, rfl, by decide⟩

end Sample

end ArtifactStaging
