/-
# ArtifactStaging.Proofs.Staging.Shadowing -- no file is copied over the name of a shared library

Whether a shared library stands in for a local file goes by the name of the location that
was asked for; what the file is called when it is copied goes by the last component of its
path.  If the two could differ, a file might be staged under the name of a library that
nobody looked up.

They do not differ where it matters.  A location that was read, or that is the source of a
file in a plan, is normal (`Obtained.normal`), and a normal location that leads to a file is
called as the file is (`Location.name_of_entry`).  So the copy goes by the name that was looked
up (`name_of_uploaded`), and the library that stands in does so before anything is asked of
the file system, whether the file is there or not.
-/
import ArtifactStaging.Proofs.FileSystem.LastName
import ArtifactStaging.Proofs.Staging.Destinations

set_option autoImplicit false

namespace ArtifactStaging

/-! ## Where locations come from -/

/-- What was joined goes by its name, whatever it was joined to. -/
theorem Location.name_join {name : String} (inhabited : name ≠ "") (whole : '/' ∉ name.toList)
    (location : Location) : (location.join name).name = name := by
  have hne : name.toList ≠ [] := by simpa using inhabited
  have trimmed := Text.trim_of_notMem whole
  obtain ⟨front, hbound⟩ := location.bound_eq_append
  have hpath := toList_join location (trimmed ▸ hne)
  rw [trimmed, hbound, List.append_assoc] at hpath
  rw [name_of_path hne whole hpath, String.ofList_toList]

/-- A location that was read, or that is the source of a file in a plan of inputs that were
read. -/
inductive Obtained (source : Location) : Prop
  | read {raw : String} (parsed : Location.parse? raw = some source)
  | planned {root logicalRoot : String} {inputs : List Location} {disk disk' : Disk}
      {plan : List PlanEntry} {entry : PlanEntry}
      (read : ∀ input ∈ inputs, ∃ raw, Location.parse? raw = some input)
      (expanded : (Plan.ofInputs (Disk.host root) logicalRoot inputs).outcome disk =
        (.ok plan, disk'))
      (listed : entry ∈ plan) (same : entry.source = source)

/-- The files of normal inputs have normal sources. -/
theorem Plan.Brings.normal {root logicalRoot : String} {disk : Disk} {input : Location}
    {entry : PlanEntry} (normal : input.Normal)
    (brings : Brings root logicalRoot disk input entry) : entry.source.Normal := by
  unfold Brings at brings
  split at brings
  · obtain ⟨names, -, hentry⟩ := brings
    unfold entryAt? at hentry
    split at hentry
    · obtain ⟨source, parsed, rfl⟩ := Option.map_eq_some_iff.1 hentry
      rw [Location.toOption_parse] at parsed
      exact Location.normal_of_parse? parsed
    · rw [← Option.some.inj hentry]
      exact normal.join
  · rw [brings]
    exact normal

theorem Obtained.normal {source : Location} (obtained : Obtained source) : source.Normal := by
  cases obtained with
  | read parsed => exact Location.normal_of_parse? parsed
  | planned read expanded listed same =>
      subst same
      obtain ⟨input, hinput, brings⟩ := (Plan.mem_ofInputs_disk expanded).1 listed
      obtain ⟨raw, parsed⟩ := read input hinput
      exact brings.normal (Location.normal_of_parse? parsed)

/-! ## Registrations -/

namespace Uploader

variable {σ : Type} {host : Host σ} {uploader : Uploader} {key directory path fileName : String}
  {source : Location} {replication : UInt16} {s t : Submission σ}

/-- What is copied goes by the file name of its path. -/
theorem name_destinationOf (uploader : Uploader) (directory : String)
    (named : PathText.fileName? path = some fileName) :
    (uploader.destinationOf directory fileName).name = fileName := by
  obtain ⟨hlast, -⟩ := Option.filter_eq_some_iff.1 named
  obtain ⟨inhabited, whole⟩ := PathText.mem_names (PathText.mem_names_of_lastComponent? hlast)
  exact Location.name_join inhabited whole _

/-- A copy goes by the name of its source. -/
theorem name_of_uploaded {descriptor : ArtifactDescriptor} (normal : source.Normal)
    (registers : Registers host uploader key source directory replication s
      (.uploaded descriptor) t) :
    descriptor.path.name = source.name ∧ uploader.shared.get? source.name = none := by
  cases registers with
  | uploaded here free seen other named copied =>
      obtain rfl := (Location.localPath?_eq_some.1 here).2
      refine ⟨?_, free⟩
      rw [Location.name_of_entry normal seen other named]
      exact name_destinationOf uploader directory named

/-- **The shadow of a shared library.**  A location that was read or planned is never uploaded
under a name of the index: an upload keeps the name of its source, and the index has no library
of that name.  If the location is local and the index has a library of its name, that library
stands in for it as the index has it, open to all, whatever the file system holds; and nothing
changes. -/
theorem registerSingle_shadowed (host : Host σ) (uploader : Uploader) (key directory : String)
    (replication : UInt16) (s : Submission σ) (obtained : Obtained source) :
    (∀ descriptor t,
      (uploader.registerSingle host key source directory replication).outcome s =
        (.ok (.uploaded descriptor), t) →
      uploader.shared.contains descriptor.path.name = false ∧
        descriptor.path.name = source.name) ∧
    (source.isRemote = false → uploader.shared.contains source.name = true →
      ∃ entry ∈ uploader.shared.entries, entry.fileName = source.name ∧
        (uploader.registerSingle host key source directory replication).outcome s =
          (.ok (.reusedShared ⟨entry.fileName, entry.status.path, entry.status.size,
            entry.status.modificationTime, .shared⟩), s)) := by
  constructor
  · intro descriptor t run
    obtain ⟨same, free⟩ := name_of_uploaded obtained.normal (registerSingle_ok_iff.1 run)
    rw [same, SharedLibraryIndex.contains_eq, free]
    exact ⟨rfl, rfl⟩
  · intro here known
    rw [SharedLibraryIndex.contains_eq] at known
    obtain ⟨entry, shadow⟩ := Option.isSome_iff_exists.1 known
    obtain ⟨hmem, hname⟩ := SharedLibraryIndex.get?_eq_some.1 shadow
    refine ⟨entry, hmem, hname, registerSingle_ok_iff.2 ?_⟩
    exact .reusedShared (Location.localPath?_eq_some.2 ⟨here, rfl⟩) shadow

end Uploader

namespace Sample

open Uploader

/-- One local file is uploaded under its own name; another is replaced by the shared library of
its name, and so is one that is not there. -/
theorem registerSingle_shadowed_sample :
    (∃ t, ((uploader (here "h")).registerSingle host "k" (here "y/a") "l" 1).outcome
        (start (here "h")) = (.ok (.uploaded ⟨"k", here "h/.n/i/l/a", 2, 7, .application⟩), t) ∧
      (uploader (here "h")).shared.contains (here "h/.n/i/l/a").name = false) ∧
    ((uploader (here "h")).registerSingle host "k" (here "x/s") "l" 1).outcome
        (start (here "h")) =
      (.ok (.reusedShared ⟨"s", there "/l/s", 1, 5, .shared⟩), start (here "h")) ∧
    ((uploader (here "h")).registerSingle host "k" (here "none/s") "l" 1).outcome
        (start (here "h")) =
      (.ok (.reusedShared ⟨"s", there "/l/s", 1, 5, .shared⟩), start (here "h")) := by
  have shadowed {path : String} (parsed : Location.parse? path = some (here path))
      (named : (here path).name = "s") :
      ((uploader (here "h")).registerSingle host "k" (here path) "l" 1).outcome
          (start (here "h")) =
        (.ok (.reusedShared ⟨"s", there "/l/s", 1, 5, .shared⟩), start (here "h")) := by
    obtain ⟨entry, hmem, -, run⟩ :=
      (registerSingle_shadowed host (uploader (here "h")) "k" "l" 1 (start (here "h"))
        (.read parsed)).2 rfl (by rw [named]; decide)
    obtain rfl := List.mem_singleton.1 hmem
    exact run
  have run : ((uploader (here "h")).registerSingle host "k" (here "y/a") "l" 1).outcome
      (start (here "h")) =
        (.ok (.uploaded ⟨"k", here "h/.n/i/l/a", 2, 7, .application⟩), _) :=
    Run.outcome_eq_of_toOption (by decide +kernel)
  refine ⟨⟨_, run, ?_⟩, shadowed (by decide) (by decide),
    shadowed (by decide) (by decide)⟩
  have parsed : Location.parse? "y/a" = some (here "y/a") := by decide
  exact ((registerSingle_shadowed host (uploader (here "h")) "k" "l" 1 (start (here "h"))
    (.read parsed)).1 _ _ run).1

end Sample

end ArtifactStaging
