/-
# ArtifactStaging.Proofs.Staging.Framing -- what one registration leaves alone

The registration of one artifact ends in one of four ways, and each has its frame
(`Uploader.Framed`).

* A failure leaves the table and the shipment as they were, wherever it comes from.
* A shared library that stands in leaves everything as it was, the world included: nothing
  was asked of storage.
* A remote artifact, and one that was uploaded, change the record of their key and nothing
  else in the table.

Beside the table there is storage.  An upload copies the file over what is at its
destination, keeps the source, and then sets the replication there; it may fail before either
call and after it.  No other registration asks for a change (`Uploader.Asks`).  A rehearsal
shows these calls in what it wrote down, whatever its script answers.
-/
import ArtifactStaging.Proofs.Staging.Provenance
import ArtifactStaging.Proofs.Storage.Effects

set_option autoImplicit false

namespace ArtifactStaging.Uploader

open Submission

variable {σ : Type} {host : Host σ} {uploader : Uploader} {key path directory : String}
  {source destination : Location} {replication : UInt16} {s t : Submission σ}

/-! ## The changes of an upload -/

/-- The copy of a local file to its destination, which keeps the source. -/
def copyOf (path : String) (destination : Location) : Change :=
  .copyFromLocal path destination true false

/-- What one registration asks of storage, by its answer. -/
inductive Asks (uploader : Uploader) (source : Location) (directory : String)
    (replication : UInt16) : Except StagingError Registration → List Change → Prop
  /-- Nothing, unless the artifact was uploaded. -/
  | nothing {answer : Except StagingError Registration}
      (other : ∀ descriptor, answer ≠ .ok (.uploaded descriptor)) :
      Asks uploader source directory replication answer []
  /-- The copy alone, when that fails. -/
  | copy {path fileName : String} {error : StagingError} (here : source.localPath? = some path)
      (free : uploader.shared.get? source.name = none)
      (named : PathText.fileName? path = some fileName) :
      Asks uploader source directory replication (.error error)
        [copyOf path (uploader.destinationOf directory fileName)]
  /-- The copy and then the replication, whatever happens after them. -/
  | replicated {path fileName : String} {answer : Except StagingError Registration}
      (here : source.localPath? = some path) (free : uploader.shared.get? source.name = none)
      (named : PathText.fileName? path = some fileName)
      (ends : ∀ registration, answer = .ok registration → ∃ descriptor,
        registration = .uploaded descriptor ∧
          descriptor.path = uploader.destinationOf directory fileName) :
      Asks uploader source directory replication answer
        [copyOf path (uploader.destinationOf directory fileName),
          .setReplication (uploader.destinationOf directory fileName) replication]

/-- An upload asks for the copy, and unless that fails, for the replication. -/
theorem upload_effects (host : Host σ) (uploader : Uploader) (path : String) (modified : Int64)
    (destination : Location) (replication : UInt16) (start : σ) :
    (∃ error, ((uploader.upload host path modified destination replication).outcome start).1 =
        .error error ∧
      Effects host [copyOf path destination] start
        ((uploader.upload host path modified destination replication).outcome start).2) ∨
    Effects host [copyOf path destination, .setReplication destination replication] start
      ((uploader.upload host path modified destination replication).outcome start).2 := by
  refine Run.effects_bind (Effects.of_change (copyOf path destination)) fun _ t => ?_
  refine Run.effects_bind_looks (Effects.of_change (.setReplication destination replication))
    fun _ => ?_
  -- The rest waits for a listing, which only looks.
  refine (Listing.awaitWithin_looks host _ destination _).bind fun shown => ?_
  split
  · exact .pure _
  · exact .pure _

/-- A local file asks for its upload, or for nothing when it has no name. -/
theorem registerFile_asks {size : UInt64} {modified : Int64}
    (here : source.localPath? = some path) (free : uploader.shared.get? source.name = none)
    {answer : Except StagingError Registration}
    (run : (uploader.registerFile host key path directory size modified replication).outcome s =
      (answer, t)) :
    ∃ changes, Asks uploader source directory replication answer changes ∧
      Effects host changes s.world t.world := by
  unfold registerFile at run
  split at run
  · cases run
    exact ⟨[], .nothing (by simp), .refl _⟩
  · next fileName named =>
    have effects := upload_effects host uploader path modified
      (uploader.destinationOf directory fileName) replication s.world
    cases hupload : (uploader.upload host path modified
      (uploader.destinationOf directory fileName) replication).outcome s.world with
    | mk result world =>
    rw [hupload] at effects
    cases result with
    | error cause =>
        rw [Run.outcome_bind, onWorld_error_iff.2 ⟨cause, world, hupload, rfl, rfl⟩] at run
        cases run
        rcases effects with ⟨-, -, copied⟩ | both
        · exact ⟨_, .copy here free named, copied⟩
        · exact ⟨_, .replicated here free named (by simp), both⟩
    | ok time =>
        rw [Run.outcome_bind, onWorld_ok_iff.2 ⟨world, hupload, rfl⟩] at run
        cases run
        have both := effects.resolve_left (by simp)
        refine ⟨_, .replicated here free named ?_, both⟩
        rintro registration ⟨⟩
        exact ⟨_, rfl, rfl⟩

/-- One registration asks for the upload of its artifact, or for nothing. -/
theorem registerSingle_asks {answer : Except StagingError Registration}
    (run : (uploader.registerSingle host key source directory replication).outcome s =
      (answer, t)) :
    ∃ changes, Asks uploader source directory replication answer changes ∧
      Effects host changes s.world t.world := by
  unfold registerSingle at run
  split at run
  · next remote =>
    have looked : Effects host [] s.world ((host.storage.stat source).outcome s.world).2 :=
      Run.Looks.stat source s.world
    cases hstat : (host.storage.stat source).outcome s.world with
    | mk result world =>
    rw [hstat] at looked
    cases result with
    | error cause =>
        rw [Run.outcome_bind, onWorld_error_iff.2 ⟨cause, world, hstat, rfl, rfl⟩] at run
        cases run
        exact ⟨[], .nothing (by simp), looked⟩
    | ok status =>
        rw [Run.outcome_bind, onWorld_ok_iff.2 ⟨world, hstat, rfl⟩] at run
        cases run
        exact ⟨[], .nothing (by simp), looked⟩
  · next path here =>
    split at run
    · cases run
      exact ⟨[], .nothing (by simp), .refl _⟩
    · next free =>
      simp only [registerLocal, Run.outcome_bind, Run.outcome_view] at run
      split at run
      · cases run
        exact ⟨[], .nothing (by simp), .refl _⟩
      · split at run
        · cases run
          exact ⟨[], .nothing (by simp), .refl _⟩
        · exact registerFile_asks here free run

/-! ## The frame -/

/-- What one registration leaves alone, by its answer. -/
structure Framed (host : Host σ) (uploader : Uploader) (key : String) (source : Location)
    (directory : String) (replication : UInt16) (s : Submission σ)
    (answer : Except StagingError Registration) (t : Submission σ) : Prop where
  /-- A failure changes neither the table nor the shipment. -/
  failed : ∀ error, answer = .error error →
    t.resources = s.resources ∧ t.shipment = s.shipment
  /-- A shared library that stands in changes nothing. -/
  shadowed : ∀ descriptor, answer = .ok (.reusedShared descriptor) → t = s
  /-- Any other registration gives its key its record. -/
  recorded : ∀ registration, answer = .ok registration → registration.isPrivate = true →
    registration.descriptor.key = key ∧ t.shipment = s.shipment ∧
      ∀ other, t.resources.get? other =
        if other = key then some registration.descriptor.toLocalResource
        else s.resources.get? other
  /-- Storage is asked for the upload at most. -/
  asked : ∃ changes, Asks uploader source directory replication answer changes ∧
    Effects host changes s.world t.world

theorem framed_of_registerSingle {answer : Except StagingError Registration}
    (run : (uploader.registerSingle host key source directory replication).outcome s =
      (answer, t)) : Framed host uploader key source directory replication s answer t where
  failed := by
    rintro error rfl
    obtain ⟨world, rfl⟩ := world_of_registerSingle_error run
    exact ⟨rfl, rfl⟩
  shadowed := by
    rintro descriptor rfl
    cases registerSingle_ok_iff.1 run with
    | reusedShared here shadow => rfl
  recorded := by
    rintro registration rfl own
    have registers := registerSingle_ok_iff.1 run
    have hkey := registers.key_of_isPrivate own
    refine ⟨hkey, registers.shipment, fun other => ?_⟩
    rw [registers.resources, if_pos own, hkey, ResourceTable.get?_register]
    simp only [eq_comm]
  asked := registerSingle_asks run

/-- **The frame of one registration.**  On any host a registration leaves alone what `Framed`
says by its answer.  In front of that host a rehearsal, whatever its script, sees no call at all
when a shared library stands in, and writes down no changes but those of an upload. -/
theorem registerSingle_framed (host : Host σ) (uploader : Uploader) (key : String)
    (source : Location) (directory : String) (replication : UInt16) (s : Submission σ)
    (rehearsed : Submission (Rehearsal σ)) :
    (∃ answer t, (uploader.registerSingle host key source directory replication).outcome s =
        (answer, t) ∧ Framed host uploader key source directory replication s answer t) ∧
    ∃ answer t changes, (uploader.registerSingle (Rehearsal.host host) key source directory
        replication).outcome rehearsed = (answer, t) ∧
      (∀ descriptor, answer = .ok (.reusedShared descriptor) →
        t.world.calls = rehearsed.world.calls) ∧
      Asks uploader source directory replication answer changes ∧
      t.world.changes = rehearsed.world.changes ++ changes := by
  refine ⟨⟨_, _, rfl, framed_of_registerSingle rfl⟩, ?_⟩
  have framed : Framed (Rehearsal.host host) uploader key source directory replication rehearsed
      _ _ := framed_of_registerSingle rfl
  obtain ⟨changes, asks, effects⟩ := framed.asked
  refine ⟨_, _, changes, rfl, fun descriptor shared => ?_, asks,
    Rehearsal.changes_of_effects effects⟩
  rw [framed.shadowed descriptor shared]

end ArtifactStaging.Uploader

namespace ArtifactStaging.Sample

/-- A registration whose replication is refused, written down. -/
def refused : Except StagingError Registration × Submission (Rehearsal Disk) :=
  ((uploader (here "h")).registerSingle (Rehearsal.host host) "k" (here "y/a") "l" 1).outcome
    ⟨.start (openAt (here "h")).2 [⟨.setReplication, none, .permissionDenied⟩] [], .empty, .empty⟩

/-- The file was copied, its replication was asked for, and nothing is registered. -/
example :
    refused.1.toOption = none ∧ refused.2.resources.isEmpty = true ∧
      refused.2.world.changes =
        [Uploader.copyOf "y/a" (here "h/.n/i/l/a"), .setReplication (here "h/.n/i/l/a") 1] := by
  decide +kernel

end ArtifactStaging.Sample
