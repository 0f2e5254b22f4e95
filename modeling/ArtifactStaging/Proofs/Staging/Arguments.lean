/-
# ArtifactStaging.Proofs.Staging.Arguments -- when an argument is refused

Bulk registration checks its arguments before anything else.  Behind that check an argument can
be refused in one place only: a local source leads to no directory, and its path has no file name
(`Unnamed`), so that nothing says what the copy would be called.  No other step fails so: the
rest of a registration fails with what storage or the files answer.

On a disk that place is never reached.  Without a file name a path ends in dots, and from a
directory such a path leads to nothing but directories; a working directory that is one stays
one through all registrations (`registerMany_disk_ne_invalidArgument`).
-/
import ArtifactStaging.Proofs.FileSystem.LastName
import ArtifactStaging.Proofs.Staging.Planning
import ArtifactStaging.Proofs.Staging.Prefixes
import ArtifactStaging.Proofs.Storage.Growth

set_option autoImplicit false

namespace ArtifactStaging

/-- A directory is one in the grown tree. -/
theorem FileTree.Grows.isDirectory {before after : FileTree} {place : Place}
    (grows : before.Grows after) (h : before.isDirectory place = true) :
    after.isDirectory place = true := by
  obtain ⟨attributes, here⟩ := exists_of_isDirectory h
  obtain ⟨entry, here', kind⟩ := grows.stays place _ here
  obtain ⟨attributes', rfl⟩ := Entry.sameKind_directory.1 kind
  rw [isDirectory_eq, here']
  rfl

namespace Uploader

open Submission

variable {σ : Type} {host : Host σ} {uploader : Uploader} {key path directory : String}
  {source : Location} {replication : UInt16} {s t : Submission σ} {fault : ArgumentFault}

/-- A local source leads to no directory, and its path does not say what that is called. -/
structure Unnamed (files : FileSystem) (source : Location) (path : String) : Prop where
  here : source.localPath? = some path
  seen : ∃ entry, files.entry path = .ok entry ∧ entry.isDirectory = false
  unnamed : PathText.fileName? path = none

/-! ## One artifact -/

/-- A file is refused for want of a file name, or not at all. -/
theorem registerFile_invalidArgument {size : UInt64} {modified : Int64}
    (failed : (uploader.registerFile host key path directory size modified replication).outcome s =
      (.error (.invalidArgument fault), t)) :
    PathText.fileName? path = none ∧ fault = .noFileName path := by
  unfold registerFile at failed
  split at failed
  · next unnamed =>
    cases failed
    exact ⟨unnamed, rfl⟩
  · next fileName named =>
    rcases Run.bind_error_iff.1 failed with upload | ⟨time, u, -, recorded⟩
    · obtain ⟨cause, world, -, heq, -⟩ := onWorld_error_iff.1 upload
      cases heq
    · cases recorded

/-- An artifact is refused if it is no directory and has no name. -/
theorem registerSingle_invalidArgument
    (failed : (uploader.registerSingle host key source directory replication).outcome s =
      (.error (.invalidArgument fault), t)) :
    ∃ path, Unnamed (host.files s.world) source path ∧ fault = .noFileName path := by
  unfold registerSingle at failed
  split at failed
  · rcases Run.bind_error_iff.1 failed with stat | ⟨status, u, -, recorded⟩
    · obtain ⟨cause, world, -, heq, -⟩ := onWorld_error_iff.1 stat
      cases heq
    · cases recorded
  · next path here =>
    split at failed
    · cases failed
    simp only [registerLocal, Run.outcome_bind, Run.outcome_view] at failed
    split at failed
    · cases failed
    · next entry seen =>
      by_cases directory : entry.isDirectory = true
      · rw [if_pos directory] at failed
        cases failed
      · rw [if_neg directory] at failed
        obtain ⟨unnamed, rfl⟩ := registerFile_invalidArgument failed
        exact ⟨path, ⟨here, ⟨entry, seen, by simpa using directory⟩, unnamed⟩, rfl⟩

/-! ## A plan -/

variable {inputs : List Location} {logicalRoot : String}

/-- A bulk registration with arguments that pass the check refuses at most a file of its plan. -/
theorem registerMany_invalidArgument (accepted : checkArguments logicalRoot replication = .ok ())
    (failed : (uploader.registerMany host inputs logicalRoot replication).outcome s =
      (.error (.invalidArgument fault), t)) :
    ∃ plan world done u entry path,
      (Plan.ofInputs host logicalRoot inputs).outcome s.world = (.ok plan, world) ∧
      Registrations host uploader replication { s with world } done u ∧ entry ∈ plan ∧
      Unnamed (host.files u.world) entry.source path ∧ fault = .noFileName path := by
  rcases registerMany_cases failed with
    ⟨error, world, heq, -, -, storage⟩ | ⟨plan, world, done, u, planned, -, registered, ends⟩
  · obtain ⟨cause, rfl⟩ := storage accepted
    cases heq
  · generalize hanswer : Except.error (StagingError.invalidArgument fault) = answer at ends
    cases ends with
    | completed all => cases hanswer
    | @stopped entry rest error t next refused table shipped =>
        cases hanswer
        obtain ⟨path, unnamed, rfl⟩ := registerSingle_invalidArgument refused
        have mem : entry ∈ plan.filter uploader.takes := by simp [next]
        exact ⟨plan, world, done, u, entry, path, planned, registered, (List.mem_filter.1 mem).1,
          unnamed, rfl⟩

/-- On a disk no argument is refused behind the check. -/
theorem registerMany_disk_ne_invalidArgument {root : String} {s t : Submission Disk}
    (accepted : checkArguments logicalRoot replication = .ok ())
    (start : s.world.files.tree.isDirectory s.world.files.here = true) :
    (uploader.registerMany (Disk.host root) inputs logicalRoot replication).outcome s ≠
      (.error (.invalidArgument fault), t) := by
  intro failed
  obtain ⟨plan, world, done, u, entry, path, planned, registered, -, unnamed, -⟩ :=
    registerMany_invalidArgument accepted failed
  obtain ⟨rfl, -⟩ := Plan.ofInputs_disk_ok_iff.1 planned
  have grows := registered.grows
  have later : u.world.files.tree.isDirectory u.world.files.here = true := by
    rw [grows.here]
    exact grows.tree.isDirectory start
  obtain ⟨found, seen, other⟩ := unnamed.seen
  exact PathText.fileName?_ne_none_of_entry later seen other unnamed.unnamed

end Uploader

end ArtifactStaging
