/-
# ArtifactStaging.Proofs.Staging.Contents -- what an uploaded file holds

An uploaded artifact is recorded with the size of its source.  Where the source and the destination
are different files, both hold what the source held, so the record is right
(`registerSingle_contents`).  Nothing in a registration keeps them apart, though: the destination
may be the source itself or another name of it, or a link may lead from the one to the other.  Then
the copy cuts the file before it reads it.  The file is empty, and the record still has the size
that it had (`registerSingle_empties`).
-/
import ArtifactStaging.Proofs.FileSystem.Copying
import ArtifactStaging.Proofs.Storage.Growth

set_option autoImplicit false

namespace ArtifactStaging

namespace Uploader

variable {root key directory : String} {uploader : Uploader} {source : Location}
  {replication : UInt16} {s t : Submission Disk} {artifact : ArtifactDescriptor}

/-- What an upload reads is a file, and what it leaves in it and at its destination depends on
whether the two lead to one file. -/
theorem contents_of_upload {path : String} {localTime time : Int64} {destination : Location}
    {disk world : Disk} {found : Entry}
    (h : (uploader.upload (Disk.host root) path localTime destination replication).outcome disk =
      (.ok time, world))
    (seen : disk.files.entry path = .ok found) (other : found.isDirectory = false) :
    ∃ number content attributes, found = .file number content attributes ∧
      (world.files.LeadTogether path (Disk.resolve root destination) →
        world.files.BothHold path (Disk.resolve root destination) Content.empty) ∧
      (¬world.files.LeadTogether path (Disk.resolve root destination) →
        world.files.readFile path = .ok content ∧
          (world.files.isFile (Disk.resolve root destination) = true →
            world.files.readFile (Disk.resolve root destination) = .ok content)) := by
  obtain ⟨copied, hcopied, reached, hworld⟩ := copied_of_upload h
  obtain ⟨made, keeps, copies⟩ := Disk.copied_of_copyFromLocal _ _ _ _ hcopied
  obtain ⟨⟨place, _⟩, led, rfl⟩ := Except.map_ok_iff.1 seen
  have led' := keeps.locate led other
  obtain ⟨origin, number, content, attributes, _, _, source, -⟩ := FileSystem.copy_ok_iff.1 copies
  cases led'.symm.trans source
  refine ⟨number, content, attributes, rfl, ?_⟩
  rw [hworld]
  exact FileSystem.copy_contents copies reached (FileSystem.readFile_file source)

/-- **What an uploaded artifact holds.**  Whatever the disk, the root of its remote files and the
application's directory, a registration that uploads an artifact read a file, and recorded the
number of its bytes.  If the source and the destination lead to different files afterwards, both
hold these bytes; if they lead to one file, by whatever names, it is empty.  Where the destination
leads to no file it leads to a pipe or a device, and the source holds what it held. -/
theorem registerSingle_contents
    (h : (uploader.registerSingle (Disk.host root) key source directory replication).outcome s =
      (.ok (.uploaded artifact), t)) :
    ∃ path content, source.localPath? = some path ∧
      s.world.files.readFile path = .ok content ∧
      artifact.size = UInt64.ofNat content.bytes.length ∧
      t.world.files.LeadsToLeaf (Disk.resolve root artifact.path) ∧
      (¬t.world.files.LeadTogether path (Disk.resolve root artifact.path) →
        t.world.files.readFile path = .ok content ∧
          (t.world.files.isFile (Disk.resolve root artifact.path) = true →
            t.world.files.readFile (Disk.resolve root artifact.path) = .ok content)) ∧
      (t.world.files.LeadTogether path (Disk.resolve root artifact.path) →
        t.world.files.BothHold path (Disk.resolve root artifact.path) Content.empty) := by
  cases registerSingle_ok_iff.1 h with
  | @uploaded path _ _ _ _ here free seen other named copied =>
      obtain ⟨number, content, attributes, rfl, together, apart⟩ :=
        contents_of_upload copied seen other
      obtain ⟨⟨place, _⟩, led, rfl⟩ := Except.map_ok_iff.1 seen
      exact ⟨path, content, here, FileSystem.readFile_file led, by rw [Content.length_bytes]; rfl,
        leadsToLeaf_of_upload copied, apart, together⟩

end Uploader

namespace Sample

/-- The registration of a local file beneath `l`, by the uploader with a local home. -/
def registeringFile (path : String) (s : Submission Disk) :
    Except StagingError Registration × Submission Disk :=
  ((uploader (here "h")).registerSingle host "k" (here path) "l" 1).outcome s

/-- The machine after `y/a` was registered. -/
def copiedOnce : Submission Disk := (registeringFile "y/a" (.start disk)).2

/-- The machine after the copy of `y/a` was registered as well. -/
def copiedOntoItself : Submission Disk := (registeringFile "h/.n/i/l/a" copiedOnce).2

/-- The machine on which the destination is another name of `y/a`. -/
def linkedBefore : Submission Disk :=
  let destination : Place := ["h", ".n", "i", "l", "a"]
  let tree := copiedOnce.world.files.tree.put destination (numbered 5 (file [66, 67]))
  { copiedOnce with world.files.tree := tree }

/-- The machine after `y/a` was registered there. -/
def linkedAfter : Submission Disk := (registeringFile "y/a" linkedBefore).2

/-- A copied file is where it was, and at its destination; unless that is another name of it. -/
theorem registerSingle_contents_sample :
    registeringFile "y/a" (.start disk) =
        (.ok (.uploaded ⟨"k", here "h/.n/i/l/a", 2, 7, .application⟩), copiedOnce) ∧
      copiedOnce.world.files.BothHold "y/a" "h/.n/i/l/a" ⟨[66, 67], 0⟩ ∧
      registeringFile "y/a" linkedBefore =
        (.ok (.uploaded ⟨"k", here "h/.n/i/l/a", 2, 8, .application⟩), linkedAfter) ∧
      linkedAfter.world.files.BothHold "y/a" "h/.n/i/l/a" Content.empty := by
  have uploaded : registeringFile "y/a" (.start disk) =
      (.ok (.uploaded ⟨"k", here "h/.n/i/l/a", 2, 7, .application⟩), copiedOnce) :=
    Run.outcome_eq_of_toOption (by decide +kernel)
  have uploaded' : registeringFile "y/a" linkedBefore =
      (.ok (.uploaded ⟨"k", here "h/.n/i/l/a", 2, 8, .application⟩), linkedAfter) :=
    Run.outcome_eq_of_toOption (by decide +kernel)
  obtain ⟨apart, reached, together⟩ :
      ¬copiedOnce.world.files.LeadTogether "y/a" "h/.n/i/l/a" ∧
        copiedOnce.world.files.isFile "h/.n/i/l/a" = true ∧
        linkedAfter.world.files.LeadTogether "y/a" "h/.n/i/l/a" := by decide +kernel
  have hpath : (here "y/a").localPath? = some "y/a" := by decide
  refine ⟨uploaded, ?_, uploaded', ?_⟩
  · obtain ⟨path, content, local?, held, -, -, copied, -⟩ :=
      Uploader.registerSingle_contents uploaded
    cases hpath.symm.trans local?
    have hcontent : disk.files.readFile "y/a" = .ok ⟨[66, 67], 0⟩ := by decide
    cases hcontent.symm.trans held
    exact ⟨(copied apart).1, (copied apart).2 reached⟩
  · obtain ⟨path, content, local?, -, -, -, -, emptied⟩ :=
      Uploader.registerSingle_contents uploaded'
    cases hpath.symm.trans local?
    exact emptied together

/-- Nothing refuses to copy a file onto itself, and the bytes that were recorded are gone. -/
theorem registerSingle_empties :
    ¬∀ (root key directory : String) (uploader : Uploader) (source : Location)
      (replication : UInt16) (s t : Submission Disk) (artifact : ArtifactDescriptor),
      (uploader.registerSingle (Disk.host root) key source directory replication).outcome s =
        (.ok (.uploaded artifact), t) →
      ∃ path content, source.localPath? = some path ∧
        s.world.files.readFile path = .ok content ∧
        artifact.size = UInt64.ofNat content.bytes.length ∧
        ∀ file ∈ [Disk.resolve root artifact.path, path],
          (t.world.files.readFile file).map Content.bytes = .ok content.bytes := by
  intro claim
  have uploaded : registeringFile "h/.n/i/l/a" copiedOnce =
      (.ok (.uploaded ⟨"k", here "h/.n/i/l/a", 2, 8, .application⟩), copiedOntoItself) :=
    Run.outcome_eq_of_toOption (by decide +kernel)
  obtain ⟨path, content, local?, held, -, kept⟩ := claim _ _ _ _ _ _ _ _ _ uploaded
  have hpath : (here "h/.n/i/l/a").localPath? = some "h/.n/i/l/a" := by decide
  cases hpath.symm.trans local?
  obtain ⟨before, after⟩ :
      copiedOnce.world.files.readFile "h/.n/i/l/a" = .ok ⟨[66, 67], 0⟩ ∧
        copiedOntoItself.world.files.readFile "h/.n/i/l/a" = .ok Content.empty := by decide +kernel
  cases before.symm.trans held
  have bytes := kept "h/.n/i/l/a" (by simp)
  rw [after] at bytes
  cases bytes

end Sample

end ArtifactStaging
