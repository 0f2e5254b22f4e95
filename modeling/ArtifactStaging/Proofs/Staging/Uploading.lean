/-
# ArtifactStaging.Proofs.Staging.Uploading -- the time that an uploaded file shows

Once a local file is copied and its replication is set, the rest of its registration hangs on the
listings of its destination alone.  The first listing that ends the wait decides: its first status
gives the time, or its failure is that of the registration; if none ends the wait, the local time
stands in (`Shows`, `registerSingle_awaits`).
-/
import ArtifactStaging.Proofs.Staging.Waiting
import ArtifactStaging.Storage.Script
import ArtifactStaging.Proofs.Staging.Registering

set_option autoImplicit false

namespace ArtifactStaging.Uploader

open Listing Submission

variable {σ : Type} {host : Host σ} {uploader : Uploader} {key path directory fileName : String}
  {source destination : Location} {replication : UInt16} {s : Submission σ} {modified : Int64}
  {found : Entry} {start copied written world : σ}

/-! ## An upload -/

/-- What a sequence of answers says of an uploaded file when so many listings are allowed. -/
inductive Shows (answers : Nat → Answer) (attempts : Nat) (localTime : Int64) :
    Except StorageError Int64 → Prop
  /-- The listing that ends the wait shows the file's time in its first status. -/
  | listed {position : Nat} {first : FileStatus} {rest : List FileStatus}
      (within : position < attempts) (decides : EndsAt answers position)
      (shown : answers position = .ok (first :: rest)) :
      Shows answers attempts localTime (.ok first.modificationTime)
  /-- The listing that ends the wait fails. -/
  | failed {position : Nat} {error : StorageError} (within : position < attempts)
      (decides : EndsAt answers position) (failure : answers position = .error error) :
      Shows answers attempts localTime (.error error)
  /-- No listing ends the wait, and the local time stands in. -/
  | unseen (waits : ∀ position < attempts, ends (answers position) = false) :
      Shows answers attempts localTime (.ok localTime)

/-- Every sequence of answers says something. -/
theorem exists_shows (answers : Nat → Answer) (attempts : Nat) (localTime : Int64) :
    ∃ result, Shows answers attempts localTime result := by
  rcases endsAt_or_waits answers attempts with ⟨position, within, decides⟩ | waits
  · cases hanswer : answers position with
    | error error => exact ⟨_, .failed within decides hanswer⟩
    | ok statuses =>
        cases statuses with
        | nil =>
            have hends := decides.ends
            rw [hanswer] at hends
            cases hends
        | cons first rest => exact ⟨_, .listed within decides hanswer⟩
  · exact ⟨_, .unseen waits⟩

/-- An upload whose copy and replication succeeded answers what the listings say. -/
theorem Shows.upload {result : Except StorageError Int64}
    (h : Shows (answer host uploader.options.retry.delay destination written)
      uploader.options.retry.attempts.toNat modified result)
    (hcopied : (host.storage.copyFromLocal path destination true false).outcome start =
      (.ok (), copied))
    (hwritten : (host.storage.setReplication destination replication).outcome copied =
      (.ok (), written)) :
    ∃ world, (uploader.upload host path modified destination replication).outcome start =
      (result, world) := by
  simp only [Uploader.upload, Run.outcome_bind, hcopied, hwritten, await]
  cases h with
  | listed within decides shown =>
      rw [outcome_awaitWithin_of_endsAt within decides, shown]
      exact ⟨_, rfl⟩
  | failed within decides failure =>
      rw [outcome_awaitWithin_of_endsAt within decides, failure]
      exact ⟨_, rfl⟩
  | unseen waits =>
      rw [outcome_awaitWithin_of_waits waits]
      exact ⟨_, rfl⟩

/-! ## The registration of a local file -/

/-- The registration answers that it uploaded an artifact, and leaves its record in the table. -/
def Uploads (outcome : Except StagingError Registration × Submission σ)
    (artifact : ArtifactDescriptor) : Prop :=
  outcome.1 = .ok (.uploaded artifact) ∧
    outcome.2.resources.get? artifact.key = some artifact.toLocalResource

theorem uploads_of_upload {time : Int64} (here : source.localPath? = some path)
    (free : uploader.shared.get? source.name = none)
    (seen : (host.files s.world).entry path = .ok found) (other : found.isDirectory = false)
    (named : PathText.fileName? path = some fileName)
    (uploaded : (uploader.upload host path found.modified
      (uploader.destinationOf directory fileName) replication).outcome s.world =
        (.ok time, world)) :
    Uploads ((uploader.registerSingle host key source directory replication).outcome s)
      ⟨key, uploader.destinationOf directory fileName, UInt64.ofNat found.size, time,
        .application⟩ := by
  rw [registerSingle_ok_iff.2 (.uploaded here free seen other named uploaded)]
  exact ⟨rfl, by rw [ResourceTable.get?_register, if_pos rfl]; rfl⟩

theorem outcome_of_upload_error {error : StorageError} (here : source.localPath? = some path)
    (free : uploader.shared.get? source.name = none)
    (seen : (host.files s.world).entry path = .ok found) (other : found.isDirectory = false)
    (named : PathText.fileName? path = some fileName)
    (failed : (uploader.upload host path found.modified (uploader.destinationOf directory fileName)
      replication).outcome s.world = (.error error, world)) :
    (uploader.registerSingle host key source directory replication).outcome s =
      (.error (.storage error), { s with world }) := by
  have failed' : (onWorld (uploader.upload host path found.modified
      (uploader.destinationOf directory fileName) replication)).outcome s =
        (.error (.storage error), { s with world }) :=
    onWorld_error_iff.2 ⟨error, world, failed, rfl, rfl⟩
  simp only [registerSingle, here, free, registerLocal, Run.outcome_bind, Run.outcome_view, seen,
    other, Bool.false_eq_true, if_false, registerFile, named, failed']

/-- **The time that an uploaded file shows.**  On any host, let a local path lead to what is no
directory, let no shared library have its name, and let the copy to its destination and the setting
of its replication succeed.  Then what the listings of the destination say decides.  If they say a
time, the file is uploaded with that time and its local size, and its record is in the table.  If
they say a failure, the registration fails with it and leaves the table alone.  They always say the
one or the other, and a listing with nothing in it is never taken for the file's. -/
theorem registerSingle_awaits (here : source.localPath? = some path)
    (free : uploader.shared.get? source.name = none)
    (seen : (host.files s.world).entry path = .ok found) (other : found.isDirectory = false)
    (named : PathText.fileName? path = some fileName)
    (target : destination = uploader.destinationOf directory fileName)
    (hcopied : (host.storage.copyFromLocal path destination true false).outcome s.world =
      (.ok (), copied))
    (hwritten : (host.storage.setReplication destination replication).outcome copied =
      (.ok (), written)) :
    (∀ time, Shows (answer host uploader.options.retry.delay destination written)
        uploader.options.retry.attempts.toNat found.modified (.ok time) →
      Uploads ((uploader.registerSingle host key source directory replication).outcome s)
        ⟨key, destination, UInt64.ofNat found.size, time, .application⟩) ∧
    (∀ error, Shows (answer host uploader.options.retry.delay destination written)
        uploader.options.retry.attempts.toNat found.modified (.error error) →
      ∃ world, (uploader.registerSingle host key source directory replication).outcome s =
        (.error (.storage error), { s with world })) ∧
    (∃ result, Shows (answer host uploader.options.retry.delay destination written)
      uploader.options.retry.attempts.toNat found.modified result) ∧
    ∀ world, (await host uploader.options.retry destination).outcome written ≠
      (.ok (some []), world) := by
  subst target
  refine ⟨fun time shows => ?_, fun error shows => ?_, exists_shows _ _ _,
    fun world => awaitWithin_ne_empty⟩
  · obtain ⟨world, uploaded⟩ := shows.upload hcopied hwritten
    exact uploads_of_upload here free seen other named uploaded
  · obtain ⟨world, failed⟩ := shows.upload hcopied hwritten
    exact ⟨world, outcome_of_upload_error here free seen other named failed⟩

end ArtifactStaging.Uploader

namespace ArtifactStaging.Sample

open Listing Uploader

/-- The uploader of the small machine, which lists twice. -/
def patient : Uploader :=
  { uploader (here "h") with options := { options with retry := ⟨2, 3⟩ } }

/-- The machine, on which the first listing finds nothing. -/
def late : Submission (Rehearsal Disk) := .start (.start disk [⟨.listStatus, some 1, .notFound⟩] [])

/-- What is at `y/a`. -/
def yours : Entry := numbered 5 (file [66, 67])

/-- The machine after `y/a` was copied. -/
def lateCopied : Rehearsal Disk :=
  (((Rehearsal.host host).storage.copyFromLocal "y/a" (here "h/.n/i/l/a") true false).outcome
    late.world).2

/-- The machine after the replication of the copy was set. -/
def lateWritten : Rehearsal Disk :=
  (((Rehearsal.host host).storage.setReplication (here "h/.n/i/l/a") 1).outcome lateCopied).2

/-- The second listing shows the time of the copy. -/
theorem registerSingle_awaits_sample :
    (here "y/a").localPath? = some "y/a" ∧ patient.shared.get? (here "y/a").name = none ∧
      ((Rehearsal.host host).files late.world).entry "y/a" = .ok yours ∧ yours.isDirectory = false ∧
      PathText.fileName? "y/a" = some "a" ∧
      here "h/.n/i/l/a" = patient.destinationOf "l" "a" ∧
      ((Rehearsal.host host).storage.copyFromLocal "y/a" (here "h/.n/i/l/a") true false).outcome
        late.world = (.ok (), lateCopied) ∧
      ((Rehearsal.host host).storage.setReplication (here "h/.n/i/l/a") 1).outcome lateCopied =
        (.ok (), lateWritten) ∧
      Shows (answer (Rehearsal.host host) 3 (here "h/.n/i/l/a") lateWritten) 2 5 (.ok 7) ∧
      Uploads ((patient.registerSingle (Rehearsal.host host) "k" (here "y/a") "l" 1).outcome late)
        ⟨"k", here "h/.n/i/l/a", 2, 7, .application⟩ := by
  have hcopied : ((Rehearsal.host host).storage.copyFromLocal "y/a" (here "h/.n/i/l/a") true
      false).outcome late.world = (.ok (), lateCopied) :=
    Run.outcome_eq_of_toOption (by decide +kernel)
  have hwritten : ((Rehearsal.host host).storage.setReplication (here "h/.n/i/l/a") 1).outcome
      lateCopied = (.ok (), lateWritten) :=
    Run.outcome_eq_of_toOption (by decide +kernel)
  have shown : answer (Rehearsal.host host) 3 (here "h/.n/i/l/a") lateWritten 1 =
      .ok [⟨here "h/.n/i/l/a", 2, 7, false⟩] := by decide +kernel
  have shows : Shows (answer (Rehearsal.host host) 3 (here "h/.n/i/l/a") lateWritten) 2 5
      (.ok 7) := by
    refine .listed (by decide) ⟨by rw [shown]; rfl, ?_⟩ shown
    decide +kernel
  have here' : (here "y/a").localPath? = some "y/a" := by decide
  have free : patient.shared.get? (here "y/a").name = none := by decide
  have seen : ((Rehearsal.host host).files late.world).entry "y/a" = .ok yours := by
    decide
  have named : PathText.fileName? "y/a" = some "a" := by decide
  have target : here "h/.n/i/l/a" = patient.destinationOf "l" "a" := by decide
  exact ⟨here', free, seen, rfl, named, target, hcopied, hwritten, shows,
    (registerSingle_awaits here' free seen rfl named target hcopied hwritten).1 7 shows⟩

end ArtifactStaging.Sample
