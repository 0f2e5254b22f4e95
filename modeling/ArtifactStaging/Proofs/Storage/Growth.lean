/-
# ArtifactStaging.Proofs.Storage.Growth -- staging only adds to a disk

Looking at a disk leaves it alone, waiting for a file included.  A copy that leaves
its source makes the files grow, and is all that an upload does to them
(`copied_of_upload`).  `Registrations.grows` puts the steps together: nothing that a
bulk registration finds on the disk is gone after it, turned into something else or
led elsewhere, and what it uploaded still ends its path (`Registrations.leadsToLeaf`).

Making directories fails unless its location leads to a directory afterwards
(`isDirectory_of_makeDirectories`).
-/
import ArtifactStaging.Proofs.FileSystem.Making
import ArtifactStaging.Proofs.Staging.Registering

set_option autoImplicit false

namespace ArtifactStaging

/-! ## Operations -/

namespace Disk

variable (root path : String) (disk : Disk) (location : Location)

/-- A copy that leaves its source first makes directories.  Then it fails and does no more, or the
file is copied. -/
theorem copyFromLocal_cases (overwrite : Bool) :
    ∃ made, disk.files.Keeps made ∧
      ((∃ error, copyFromLocal root path location overwrite false disk =
          (.error error, { disk with files := made })) ∨
        ∃ files, made.copy path (resolve root location) = .ok files ∧
          copyFromLocal root path location overwrite false disk =
            (.ok (), { disk with files })) := by
  unfold copyFromLocal
  dsimp only
  split
  · exact ⟨_, .refl _, .inl ⟨_, rfl⟩⟩
  cases PathText.parent? (resolve root location) with
  | none =>
      refine ⟨_, .refl _, ?_⟩
      dsimp only
      split
      · exact .inl ⟨_, rfl⟩
      · next files copied => exact .inr ⟨files, copied, rfl⟩
  | some parent =>
      refine ⟨_, FileSystem.createDirectories_keeps disk.files parent, ?_⟩
      dsimp only
      split
      · exact .inl ⟨_, rfl⟩
      · split
        · exact .inl ⟨_, rfl⟩
        · next files copied => exact .inr ⟨files, copied, rfl⟩

/-- A copy grows the files also when it fails halfway. -/
theorem copyFromLocal_grows (overwrite : Bool) :
    disk.files.Grows (copyFromLocal root path location overwrite false disk).2.files := by
  obtain ⟨made, keeps, ⟨error, failed⟩ | ⟨files, copied, succeeded⟩⟩ :=
    copyFromLocal_cases root path disk location overwrite
  · rw [failed]
    exact keeps.grows
  · rw [succeeded]
    exact keeps.grows.trans (FileSystem.grows_of_copy copied)

theorem copied_of_copyFromLocal {overwrite : Bool} {after : Disk}
    (h : copyFromLocal root path location overwrite false disk = (.ok (), after)) :
    ∃ made, disk.files.Keeps made ∧
      made.copy path (resolve root location) = .ok after.files := by
  obtain ⟨made, keeps, ⟨error, failed⟩ | ⟨files, copied, succeeded⟩⟩ :=
    copyFromLocal_cases root path disk location overwrite
  · cases failed.symm.trans h
  · cases succeeded.symm.trans h
    exact ⟨made, keeps, copied⟩

theorem isDirectory_of_makeDirectories {permission : Permission} {after : Disk}
    (h : makeDirectories root location permission disk = (.ok (), after)) :
    after.files.isDirectory (resolve root location) = true := by
  unfold makeDirectories at h
  dsimp only at h
  split at h
  · cases h
  next made =>
  split at h
  · cases h
  next files set =>
    cases h
    have grows := FileSystem.grows_of_setMode set
    obtain ⟨place, old, -, led, -, -⟩ := FileSystem.put_of_setMode set
    exact grows.isDirectory
      (FileSystem.isDirectory_of_createDirectories (Prod.ext rfl made) led)

theorem setReplication_files (factor : UInt16) :
    (setReplication root location factor disk).2.files = disk.files := by
  unfold setReplication
  split <;> rfl

/-- Only what is found is replicated. -/
theorem located_of_setReplication {factor : UInt16} {after : Disk}
    (h : setReplication root location factor disk = (.ok (), after)) :
    ∃ found, disk.files.locate (resolve root location) = .ok found := by
  unfold setReplication probe FileSystem.entry at h
  cases hfound : disk.files.locate (resolve root location) with
  | ok found => exact ⟨found, rfl⟩
  | error cause =>
      rw [hfound] at h
      cases hcause : cause.isNotFound <;> simp [Except.map, hcause] at h

theorem outcome_stat :
    ((Disk.host root).storage.stat location).outcome disk = (disk.stat root location, disk) := rfl

theorem outcome_listStatus :
    ((Disk.host root).storage.listStatus location).outcome disk =
      (disk.listStatus root location, disk) := rfl

theorem outcome_copyFromLocal (overwrite deleteSource : Bool) :
    ((Disk.host root).storage.copyFromLocal path location overwrite deleteSource).outcome disk =
      copyFromLocal root path location overwrite deleteSource disk := rfl

theorem outcome_setReplication (factor : UInt16) :
    ((Disk.host root).storage.setReplication location factor).outcome disk =
      setReplication root location factor disk := rfl

/-- Waiting for a file changes nothing. -/
theorem outcome_awaitWithin (delay : UInt64) (attempts : Nat) :
    ((Listing.awaitWithin (Disk.host root) delay location attempts).outcome disk).2 = disk := by
  induction attempts with
  | zero => rfl
  | succ attempts ih =>
      rw [Listing.awaitWithin, Run.outcome_bind, Run.outcome_attempt, outcome_listStatus]
      dsimp only
      split
      · rfl
      · rfl
      · split
        · rw [Run.outcome_bind, Run.outcome_lift]
          exact ih
        · exact ih

theorem outcome_await (policy : RetryPolicy) :
    ((Listing.await (Disk.host root) policy location).outcome disk).2 = disk :=
  outcome_awaitWithin root disk location policy.delay policy.attempts.toNat

end Disk

namespace Uploader

variable {root : String} {uploader : Uploader} {replication : UInt16} {s t : Submission Disk}

/-- The copy is all that an upload does to the files, and what was copied is found. -/
theorem copied_of_upload {path : String} {localTime time : Int64} {destination : Location}
    {disk world : Disk}
    (h : (uploader.upload (Disk.host root) path localTime destination replication).outcome disk =
      (.ok time, world)) :
    ∃ copied, Disk.copyFromLocal root path destination true false disk = (.ok (), copied) ∧
      (∃ found, copied.files.locate (Disk.resolve root destination) = .ok found) ∧
      world.files = copied.files := by
  simp only [upload, Run.bind_ok_iff] at h
  obtain ⟨_, copied, hcopied, _, replicated, hreplicated, shown, awaited, hawaited, h⟩ := h
  rw [Disk.outcome_copyFromLocal] at hcopied
  rw [Disk.outcome_setReplication] at hreplicated
  have keeps : replicated.files = copied.files := by
    simpa [hreplicated] using Disk.setReplication_files root copied destination replication
  have waits : awaited = replicated := by
    simpa [hawaited] using
      Disk.outcome_await root replicated destination uploader.options.retry
  have done : world = awaited := by
    split at h <;> exact (Run.pure_ok_iff.1 h).2
  refine ⟨copied, hcopied, Disk.located_of_setReplication root copied destination hreplicated, ?_⟩
  rw [done, waits, keeps]

theorem grows_of_upload {path : String} {localTime time : Int64} {destination : Location}
    {disk world : Disk}
    (h : (uploader.upload (Disk.host root) path localTime destination replication).outcome disk =
      (.ok time, world)) : disk.files.Grows world.files := by
  obtain ⟨copied, hcopied, -, hworld⟩ := copied_of_upload h
  rw [hworld]
  simpa [hcopied] using Disk.copyFromLocal_grows root path disk destination true

theorem leadsToLeaf_of_upload {path : String} {localTime time : Int64} {destination : Location}
    {disk world : Disk}
    (h : (uploader.upload (Disk.host root) path localTime destination replication).outcome disk =
      (.ok time, world)) : world.files.LeadsToLeaf (Disk.resolve root destination) := by
  obtain ⟨copied, hcopied, reached, hworld⟩ := copied_of_upload h
  obtain ⟨made, -, copies⟩ := Disk.copied_of_copyFromLocal _ _ _ _ hcopied
  rw [hworld]
  exact FileSystem.leadsToLeaf_of_copy copies reached

theorem Registers.grows {key directory : String} {source : Location} {registration : Registration}
    (h : Registers (Disk.host root) uploader key source directory replication s registration t) :
    s.world.files.Grows t.world.files := by
  cases h with
  | alreadyRemote remote found =>
      rw [Disk.outcome_stat] at found
      obtain ⟨-, rfl⟩ := Prod.mk.inj found
      exact .refl _
  | reusedShared here shadow => exact .refl _
  | uploaded here free seen other named copied => exact grows_of_upload copied

theorem Registrations.grows {done : List (PlanEntry × Registration)}
    (run : Registrations (Disk.host root) uploader replication s done t) :
    s.world.files.Grows t.world.files := by
  induction run with
  | nil s => exact .refl _
  | cons first others ih => exact (registerSingle_ok_iff.1 first).grows.trans ih

/-- What was uploaded in a run ends its path after the run. -/
theorem Registrations.leadsToLeaf {done : List (PlanEntry × Registration)} {entry : PlanEntry}
    {descriptor : ArtifactDescriptor}
    (run : Registrations (Disk.host root) uploader replication s done t)
    (staged : (entry, .uploaded descriptor) ∈ done) :
    t.world.files.LeadsToLeaf (Disk.resolve root descriptor.path) := by
  induction run with
  | nil => cases staged
  | cons first others ih =>
      rcases List.mem_cons.1 staged with here | later
      · cases here
        cases registerSingle_ok_iff.1 first with
        | uploaded here free seen other named copied =>
            exact others.grows.leadsToLeaf (leadsToLeaf_of_upload copied)
      · exact ih later

end Uploader

end ArtifactStaging
