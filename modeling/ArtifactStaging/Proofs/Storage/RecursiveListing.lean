/-
# ArtifactStaging.Proofs.Storage.RecursiveListing -- what a recursive listing shows

A recursive listing walks through local paths and answers locations.  The location of
a file is the directory's own location with what is shown of the names that lead to the
file joined to it.  Relative to the directory it is these names again, and if they are text
it is resolved to the path that was walked (`Disk.resolve_join_eq_iff`), so that looking
at the location shows what is answered.

A path that was walked goes through directories to a file or to a link.  What the
system sees there is the file itself, or what the link leads to from the directory it
stands in (`FileSystem.FileAt`), although the path may come through other links before.

`Disk.listFiles_account` puts it together: a listing holds one status for every file
beneath the directory, of the links for those that the system follows from there, in
depth-first order, and each status is that of its file.  `listFiles_exceptions` are a
link that has no status and a file whose status is not shown again.
-/
import ArtifactStaging.Proofs.Staging.LocalDirectories

set_option autoImplicit false

namespace ArtifactStaging

open FileSystem

/-! ## The listing -/

namespace Disk

variable {root raw : String} {disk after : Disk} {location : Location} {place names : Place}
  {attributes : Attributes} {files : List FileStatus}

/-- A status is that of the file that names lead to beneath a directory: it says that this is no
directory, what it shows is the file at that place, and relative to the directory its path is what
is shown of the names.  Exactly if these are text that is the path of the file, and then looking at
it shows the status again. -/
structure Shows (root : String) (disk : Disk) (location : Location) (place names : Place)
    (status : FileStatus) : Prop where
  regular : status.isDirectory = false
  file : ∃ entry, disk.files.FileAt (place ++ names) entry ∧ status = statusOf status.path entry
  position : location.relativize? status.path = some (Text.join "/" names.shown)
  behind : RawText.of (resolve root status.path) = RawText.down (resolve root location) names ↔
    ∀ name ∈ names, name.IsText
  again : (∀ name ∈ names, name.IsText) →
    ((storage root).stat status.path).outcome disk = (.ok status, disk)

/-- What ships is a file at its place, with what its path leads to. -/
theorem fileAt_of_shipping (wellNamed : disk.files.tree.WellNamed)
    (led : disk.files.locate (resolve root location) = .ok (place, .directory attributes))
    (ships : names ∈ disk.files.shipping false (resolve root location)) {entry : Entry}
    (looked : disk.files.entry (RawText.down (resolve root location) names) = .ok entry) :
    disk.files.FileAt (place ++ names) entry := by
  obtain ⟨⟨origin, _⟩, reached, rfl⟩ := Except.map_ok_iff.1 looked
  exact ((mem_shipping_false_iff wellNamed led).1 ships).1.fileAt wellNamed led reached

/-- Looking at names of text that are joined to a directory shows what their path leads to. -/
theorem stat_of_shipping (wellNamed : disk.files.tree.WellNamed)
    (led : disk.files.locate (resolve root location) = .ok (place, .directory attributes))
    (ships : names ∈ disk.files.shipping false (resolve root location)) {entry : Entry}
    (looked : disk.files.entry (RawText.down (resolve root location) names) = .ok entry)
    (text : ∀ name ∈ names, name.IsText) :
    disk.stat root (location.join (Text.join "/" names.shown)) =
      .ok (statusOf (location.join (Text.join "/" names.shown)) entry) := by
  have beneath := (mem_shipping_iff led).1 ships
  have behind := (resolve_join_eq_iff (ne_empty_of_locate led) beneath.inhabited
    (beneath.proper wellNamed)).2 text
  rw [stat, behind, looked]
  rfl

/-- What is shown of the names that ship lies beneath the directory. -/
theorem relativize?_of_shipping (normal : location.Normal) (wellNamed : disk.files.tree.WellNamed)
    (ships : names ∈ disk.files.shipping false (resolve root location)) :
    location.relativize? (location.join (Text.join "/" names.shown)) =
      some (Text.join "/" names.shown) := by
  obtain ⟨inhabited, proper⟩ := names_of_mem_shipping wellNamed ships
  obtain ⟨trimmed, written⟩ := PathText.trim_join inhabited proper
  rw [Location.relativize?_join normal (by rwa [trimmed]), Text.trimSlashes, trimmed,
    String.ofList_toList]

/-- Names that ship are shown by the status of what their path leads to. -/
theorem shows_of_shipping (normal : location.Normal) (wellNamed : disk.files.tree.WellNamed)
    (led : disk.files.locate (resolve root location) = .ok (place, .directory attributes))
    (ships : names ∈ disk.files.shipping false (resolve root location)) {entry : Entry}
    (looked : disk.files.entry (RawText.down (resolve root location) names) = .ok entry) :
    Shows root disk location place names
      (statusOf (location.join (Text.join "/" names.shown)) entry) := by
  have fileAt := fileAt_of_shipping wellNamed led ships looked
  have beneath := (mem_shipping_iff led).1 ships
  constructor
  · cases fileAt <;> rfl
  · exact ⟨_, fileAt, rfl⟩
  · exact relativize?_of_shipping normal wellNamed ships
  · exact resolve_join_eq_iff (ne_empty_of_locate led) beneath.inhabited
      (beneath.proper wellNamed)
  · intro text
    change (disk.stat root (location.join (Text.join "/" names.shown)), disk) = _
    rw [stat_of_shipping wellNamed led ships looked text]

/-- **What a recursive listing of a directory holds.**  For a location that was read, at which the
system finds a directory, a recursive listing that answers leaves the disk alone and holds one
status for every file beneath the directory and nothing else, whatever links, loops and dangling
links there are; a link to a file is among them if the system follows it from there.  They come in
depth-first order, siblings by the bytes of their names.  Each status shows its file: it says that
this is no directory, relative to the location its path is what is shown of the names that lead to
the file, and if these are text looking at its path shows it again. -/
theorem listFiles_account (root : String) (read : Location.parse raw = .ok location)
    (wellNamed : disk.files.tree.WellNamed)
    (led : disk.files.locate (resolve root location) = .ok (place, .directory attributes))
    (listed : ((storage root).listFiles location).outcome disk = (.ok files, after)) :
    after = disk ∧ ∃ positions : List Place,
      (∀ names, names ∈ positions ↔ disk.files.FileBeneath place names ∧
        disk.files.Follows (RawText.down (resolve root location) names) (place ++ names)) ∧
      positions.Pairwise Place.Precedes ∧ positions.Nodup ∧
      List.Forall₂ (Shows root disk location place) positions files := by
  change (disk.listFiles root location, disk) = _ at listed
  obtain ⟨answered, rfl⟩ := Prod.mk.inj listed
  have normal := Location.normal_of_parse? (Location.parse_ok_iff.1 read)
  refine ⟨rfl, disk.files.shipping false (resolve root location),
    fun names => mem_shipping_false_iff wellNamed led, shipping_ascending _ _ _,
    shipping_nodup _ _ _, ?_⟩
  have looked := forall₂_of_listFiles answered led
  refine ((List.forall₂_and_left _ _).2 ⟨fun names ships => ships, looked⟩).imp ?_
  rintro names status ⟨ships, entry, found, rfl⟩
  exact shows_of_shipping normal wellNamed led ships found

end Disk

namespace Sample

/-- The directory `d` read with a slash behind it: a link to a file counts, with what it leads to,
and links to a directory, to the directory itself and to nothing do not. -/
theorem listFiles_account_sample :
    Location.parse "d/" = .ok (here "d") ∧
    burrow.files.locate (Disk.resolve "r" (here "d")) = .ok (["d"], directory) ∧
    ∃ positions files,
      ((Disk.storage "r").listFiles (here "d")).outcome burrow = (.ok files, burrow) ∧
      (∀ names, names ∈ positions ↔ names ∈ burrowFiles) ∧
      List.Forall₂ (Disk.Shows "r" burrow (here "d") ["d"]) positions files ∧
      files.map FileStatus.size = [1, 1, 1, 1] := by
  have read : Location.parse "d/" = .ok (here "d") := by decide
  have led : burrow.files.locate (Disk.resolve "r" (here "d")) = .ok (["d"], directory) := by
    decide
  have ships : burrow.files.shipping false (Disk.resolve "r" (here "d")) = burrowFiles := by
    decide
  have concrete : (((Disk.storage "r").listFiles (here "d")).outcome burrow).1.toOption.map
      (·.map FileStatus.size) = some [1, 1, 1, 1] := by decide
  obtain ⟨files, answered, sizes⟩ := Option.map_eq_some_iff.1 concrete
  have listed : ((Disk.storage "r").listFiles (here "d")).outcome burrow = (.ok files, burrow) :=
    Run.outcome_eq_of_toOption answered
  obtain ⟨-, positions, all, -, -, shows⟩ :=
    Disk.listFiles_account "r" read wellNamed_burrow led listed
  refine ⟨read, led, positions, files, listed, fun names => ?_, shows, sizes⟩
  rw [all, ← mem_shipping_false_iff wellNamed_burrow led, ships]

/-- A link to a file is not listed where the links on the way to its directory make it one too
many; and looking at the status of a file whose name is no text shows nothing. -/
theorem listFiles_exceptions :
    (¬∀ (root raw : String) (disk : Disk) (location : Location) (place : Place)
        (attributes : Attributes) (files : List FileStatus),
      Location.parse raw = .ok location → disk.files.tree.WellNamed →
      disk.files.locate (Disk.resolve root location) = .ok (place, .directory attributes) →
      ((Disk.storage root).listFiles location).outcome disk = (.ok files, disk) →
      ∀ names, disk.files.FileBeneath place names →
        ∃ status ∈ files,
          location.relativize? status.path = some (Text.join "/" names.shown)) ∧
    ((Disk.storage "r").listFiles (here "d")).outcome oddments =
      (.ok [⟨here "d/\uFFFD", 1, 5, false⟩], oddments) ∧
    ((Disk.storage "r").stat (here "d/\uFFFD")).outcome oddments =
      (.error (.notFound "d/\uFFFD"), oddments) := by
  refine ⟨fun claim => ?_, by decide, by decide⟩
  have listed : ((Disk.storage "r").listFiles (here "b")).outcome coil =
      (.ok [⟨here "b/f", 1, 5, false⟩], coil) := by decide
  have led : coil.files.locate (Disk.resolve "r" (here "b")) = .ok (["d"], directory) := by
    decide
  obtain ⟨status, hstatus, position⟩ := claim "r" "b" coil _ _ _ _ (by decide)
    wellNamed_coil led listed ["l"] fileBeneath_coil
  obtain rfl := List.mem_singleton.1 hstatus
  exact absurd position (by decide)

end Sample

end ArtifactStaging
