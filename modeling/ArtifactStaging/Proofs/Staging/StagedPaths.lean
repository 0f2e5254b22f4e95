/-
# ArtifactStaging.Proofs.Staging.StagedPaths -- a staged file lies where its key says

A plan gives each file one destination.  It is the key that the file is recorded under, and
it is cut at its last slash into a directory and a name, of which the directory is joined to
the application's directory and then, for a file that is uploaded, the name that its path
has.  The two ways come to the same text, whatever slashes the logical root is written with:
what stands before the last name of a destination is trimmed (`PlanEntry.joinRelative_directory`),
and joining twice is joining what is joined (`Location.join_join`).

So staged paths and keys tell each other (`staged_at_key`): two files of one uploader
go to one path exactly when they have one key, in one bulk registration or in several.
-/
import ArtifactStaging.Proofs.Staging.Provenance
import ArtifactStaging.Proofs.Staging.Shadowing

set_option autoImplicit false

namespace ArtifactStaging

open Text

/-! ## Joining texts -/

section

variable {base name : String}

/-- Behind something that was joined stands its name. -/
theorem toList_joinRelative_name (inhabited : name ≠ "") (whole : '/' ∉ name.toList) :
    (joinRelative base name).toList =
      if trim '/' base.toList = [] then name.toList
      else trim '/' base.toList ++ '/' :: name.toList := by
  rw [toList_joinRelative, trim_of_notMem whole]
  simp [inhabited]

/-- Cut at its last slash and joined again, a destination is the same. -/
theorem PlanEntry.joinRelative_directory {entry : PlanEntry}
    (h : entry.destination = joinRelative base name) (inhabited : name ≠ "")
    (whole : '/' ∉ name.toList) : joinRelative entry.directory name = entry.destination := by
  have hdestination := congrArg String.toList h
  rw [toList_joinRelative_name inhabited whole] at hdestination
  rw [h, ← String.toList_inj, toList_joinRelative_name inhabited whole,
    toList_joinRelative_name inhabited whole, directory, hdestination]
  by_cases hbase : trim '/' base.toList = []
  · rw [if_pos hbase, cutLast?_eq_none.2 whole]
    rfl
  · rw [if_neg hbase, cutLast?_append whole]
    dsimp only
    rw [String.toList_ofList, trim_trim, if_neg hbase]

end

/-! ## The keys of a plan -/

namespace Plan

open PathText

variable {root logicalRoot : String} {disk : Disk} {input : Location} {entry : PlanEntry}

/-- The last of some names stands behind the others as if it were joined to them. -/
theorem join_concat_eq_joinRelative {parts : List String} {last : String}
    (proper : ∀ name ∈ parts ++ [last], name ≠ "" ∧ '/' ∉ name.toList) :
    Text.join "/" (parts ++ [last]) = joinRelative (Text.join "/" parts) last := by
  obtain ⟨inhabited, whole⟩ := proper last (by simp)
  rw [← String.toList_inj, toList_joinRelative_name inhabited whole]
  by_cases alone : parts = []
  · rw [alone, List.nil_append, show Text.join "/" ([] : List String) = "" from rfl,
      if_pos (by decide)]
    rfl
  · obtain ⟨trimmed, filled⟩ :=
      trim_join alone fun name hname => proper name (List.mem_append_left _ hname)
    rw [join_concat alone, trimmed, if_neg filled]
    simp

/-- The destination of a local file is that of its directory with the name of its source behind
it. -/
theorem exists_joinRelative (normal : input.Normal) (wellNamed : disk.files.tree.WellNamed)
    (brings : Brings root logicalRoot disk input entry) (here : entry.source.isRemote = false) :
    ∃ base, entry.destination = joinRelative base entry.source.name := by
  have named := fileName_eq_name normal wellNamed brings here
  unfold Brings at brings
  split at brings
  · obtain ⟨shipped, ships, hentry⟩ := brings
    unfold entryAt? at hentry
    split at hentry
    · next path hlocal =>
      obtain ⟨source, parsed, made⟩ := Option.map_eq_some_iff.1 hentry
      have hdestination : entry.destination = joinRelative logicalRoot
          (Text.join "/" ((lastComponent? path).toList ++ shipped.shown)) := by rw [← made]
      obtain ⟨inhabited, leading⟩ := FileSystem.shown_of_mem_shipping wellNamed ships
      obtain hnil | ⟨parts, last, hshipped⟩ := List.eq_nil_or_concat shipped.shown
      · exact absurd hnil inhabited
      rw [List.concat_eq_append] at hshipped
      rw [hshipped] at leading
      rw [hshipped, ← List.append_assoc] at hdestination
      have proper : ∀ name ∈ (lastComponent? path).toList ++ parts ++ [last],
          name ≠ "" ∧ '/' ∉ name.toList := by
        intro name hname
        rw [List.append_assoc] at hname
        rcases List.mem_append.1 hname with hname | hname
        · exact mem_names (mem_names_of_lastComponent? (Option.mem_toList.1 hname))
        · obtain ⟨filled, whole, -⟩ := leading name hname
          exact ⟨filled, whole⟩
      have hlast : entry.fileName = last := fileName_of_join hdestination (names_join proper)
      refine ⟨joinRelative logicalRoot (Text.join "/" ((lastComponent? path).toList ++ parts)), ?_⟩
      rw [hdestination, join_concat_eq_joinRelative proper, joinRelative_assoc, ← named, hlast]
    · next remote =>
      -- A file listed in a remote directory is remote.
      have hsource := congrArg PlanEntry.source (Option.some.inj hentry).symm
      dsimp only at hsource
      rw [hsource, Location.isRemote_join, Location.localPath?_eq_none.1 remote] at here
      cases here
  · exact ⟨logicalRoot, by rw [brings, single]⟩

end Plan

/-! ## Staged files -/

namespace Uploader

variable {root logicalRoot : String} {uploader : Uploader} {replication : UInt16}
  {disk : Disk} {input : Location} {entry : PlanEntry}

/-- An upload goes to where its key says, and its key is trimmed. -/
theorem path_of_uploaded {σ : Type} {host : Host σ} {s t : Submission σ}
    {descriptor : ArtifactDescriptor} (normal : input.Normal)
    (wellNamed : disk.files.tree.WellNamed)
    (brings : Plan.Brings root logicalRoot disk input entry)
    (registers : Registers host uploader entry.destination entry.source entry.directory
      replication s (.uploaded descriptor) t) :
    descriptor.path = uploader.applicationDirectory.join descriptor.key ∧
      trim '/' descriptor.key.toList = descriptor.key.toList := by
  obtain ⟨hname, -⟩ := name_of_uploaded (brings.normal normal) registers
  cases registers with
  | uploaded here free seen other named copied =>
      obtain ⟨base, hdestination⟩ :=
        Plan.exists_joinRelative normal wellNamed brings (Location.localPath?_eq_some.1 here).1
      obtain ⟨inhabited, whole⟩ := PathText.mem_names
        (PathText.mem_names_of_lastComponent? (Option.filter_eq_some_iff.1 named).1)
      dsimp only at hname ⊢
      rw [name_destinationOf uploader _ named] at hname
      subst hname
      constructor
      · rw [destinationOf, Location.join_join,
          PlanEntry.joinRelative_directory hdestination inhabited whole]
      · rw [hdestination, trim_joinRelative]

/-- A bulk registration of the uploader on a disk, whatever came of it in the end, got as far as
uploading a file. -/
def Stages (uploader : Uploader) (descriptor : ArtifactDescriptor) : Prop :=
  ∃ (root logicalRoot : String) (inputs : List Location) (replication : UInt16)
    (s t : Submission Disk) (done : List (PlanEntry × Registration)) (entry : PlanEntry),
    (∀ input ∈ inputs, input.Normal) ∧ s.world.files.tree.WellNamed ∧
      Reaches (Disk.host root) uploader inputs logicalRoot replication s done t ∧
      (entry, .uploaded descriptor) ∈ done

theorem Stages.path {descriptor : ArtifactDescriptor} (h : uploader.Stages descriptor) :
    descriptor.path = uploader.applicationDirectory.join descriptor.key ∧
      trim '/' descriptor.key.toList = descriptor.key.toList := by
  obtain ⟨root, logicalRoot, inputs, replication, s, t, done, entry, normal, wellNamed,
    ⟨-, plan, world, planned, run, listed⟩, staged⟩ := h
  obtain ⟨u, v, registers⟩ := run.registers _ staged
  have hentry : entry ∈ plan :=
    List.mem_of_mem_filter (listed.subset (List.mem_map_of_mem staged))
  obtain ⟨input, hinput, brings⟩ := (Plan.mem_ofInputs_disk planned).1 hentry
  exact path_of_uploaded (normal input hinput) wellNamed brings registers

/-- **Staged paths and keys.**  Whatever bulk registration a file was uploaded in, and with
whatever logical root, it is staged at its key beneath the application's directory.  So two files
that were uploaded with one uploader, in one bulk registration or in two, are staged at one path
exactly if they have one key. -/
theorem staged_at_key {descriptor other : ArtifactDescriptor} (staged : uploader.Stages descriptor)
    (staged' : uploader.Stages other) :
    descriptor.path = uploader.applicationDirectory.join descriptor.key ∧
      (descriptor.path = other.path ↔ descriptor.key = other.key) := by
  obtain ⟨hpath, trimmed⟩ := staged.path
  obtain ⟨hpath', trimmed'⟩ := staged'.path
  refine ⟨hpath, ?_⟩
  rw [hpath, hpath', Location.join_inj, trimmed, trimmed', String.toList_inj]

end Uploader

namespace Sample

open Uploader

/-- A local file is uploaded in a bulk registration of its own. -/
theorem stages_of_registerSingle (path destination : String) {world : Disk}
    {descriptor : ArtifactDescriptor} (wellNamed : world.files.tree.WellNamed)
    (read : Location.parse? path = some (here path))
    (planned : ((Plan.ofInputs host "l" [here path]).outcome world).1.toOption =
      some [⟨here path, destination⟩])
    (taken : (uploader (here "h")).takes ⟨here path, destination⟩ = true)
    (run : (((uploader (here "h")).registerSingle host destination (here path)
      (PlanEntry.directory ⟨here path, destination⟩) 1).outcome
        (.start ((Plan.ofInputs host "l" [here path]).outcome world).2)).1.toOption =
      some (.uploaded descriptor)) :
    (uploader (here "h")).Stages descriptor := by
  have answered := Run.outcome_eq_of_toOption planned
  have registers := Run.outcome_eq_of_toOption run
  refine ⟨"r", "l", [here path], 1, .start world, _,
    [(⟨here path, destination⟩, .uploaded descriptor)], _, ?_, wellNamed,
    ⟨rfl, _, _, answered, .cons registers (.nil _), ?_⟩, List.mem_singleton.2 rfl⟩
  · intro input hinput
    obtain rfl := List.mem_singleton.1 hinput
    exact Location.normal_of_parse? read
  · rw [List.filter_cons_of_pos taken]
    exact List.prefix_rfl

/-- Two files with keys of their own are staged beside each other. -/
theorem staged_at_key_sample :
    (uploader (here "h")).Stages ⟨"l/a", here "h/.n/i/l/a", 2, 7, .application⟩ ∧
      (uploader (here "h")).Stages ⟨"l/b.jar", here "h/.n/i/l/b.jar", 1, 7, .application⟩ ∧
      here "h/.n/i/l/a" = (uploader (here "h")).applicationDirectory.join "l/a" ∧
      here "h/.n/i/l/a" ≠ here "h/.n/i/l/b.jar" := by
  have wellNamed : (openAt (here "h")).2.files.tree.WellNamed :=
    FileTree.wellNamed_iff.2 (by decide +kernel)
  have first : (uploader (here "h")).Stages ⟨"l/a", here "h/.n/i/l/a", 2, 7, .application⟩ :=
    stages_of_registerSingle "y/a" "l/a" wellNamed (by decide +kernel) (by decide +kernel)
      (by decide +kernel) (by decide +kernel)
  have second : (uploader (here "h")).Stages
      ⟨"l/b.jar", here "h/.n/i/l/b.jar", 1, 7, .application⟩ :=
    stages_of_registerSingle "x/b.jar" "l/b.jar" wellNamed (by decide +kernel) (by decide +kernel)
      (by decide +kernel) (by decide +kernel)
  obtain ⟨hpath, hiff⟩ := staged_at_key first second
  exact ⟨first, second, hpath, fun same => absurd (hiff.1 same) (by decide)⟩

end Sample

end ArtifactStaging
