/-
# ArtifactStaging.Proofs.Staging.Accounts -- the table against the shipment

A submission keeps two accounts of what it did: the table for the resource manager,
with one record for a key, and the shipment, with every artifact in order.
`Accounts` says how they agree.

* A key of the table has the record of the private artifact that was shipped last
  under it, or else that of the shared library of its name.
* What was shipped for everyone is a shared library.

Registering the shared libraries opens the accounts, and every artifact that is
registered and shipped keeps them, whichever way its registration goes.  So they
agree after a whole stage run (`accounts_of_stageAll`), and `Accounts.resource` reads
off what the table says of a shipped artifact.  It need not be the artifact's own
record: two inputs may go to one key (`stageRun_contradicts`).
-/
import ArtifactStaging.Proofs.CommandLine.StageRun

set_option autoImplicit false

namespace ArtifactStaging

/-! ## The last artifact of a key -/

namespace Shipment

/-- The private artifact that was shipped last under a key. -/
def lastPrivate? (shipment : Shipment) (key : String) : Option ArtifactDescriptor :=
  (shipment.descriptors.filter fun shipped =>
    shipped.key == key && shipped.visibility == .application).getLast?

variable {shipment : Shipment} {key : String} {descriptor : ArtifactDescriptor}

theorem lastPrivate?_push :
    (shipment.push descriptor).lastPrivate? key =
      if descriptor.key = key ∧ descriptor.visibility = .application then some descriptor
      else shipment.lastPrivate? key := by
  by_cases h : descriptor.key = key ∧ descriptor.visibility = .application
  · simp [lastPrivate?, push, h]
  · have hfalse : (descriptor.key == key && descriptor.visibility == .application) = false := by
      simpa using h
    simp [lastPrivate?, push, h, hfalse]

theorem lastPrivate?_eq_none :
    shipment.lastPrivate? key = none ↔
      ∀ shipped ∈ shipment.descriptors, shipped.key = key →
        shipped.visibility ≠ .application := by
  simp [lastPrivate?]

end Shipment

/-! ## Accounts -/

namespace Uploader

open Submission

variable {σ : Type} {host : Host σ} {uploader : Uploader} {replication : UInt16}
  {s t : Submission σ}

/-- The table and the shipment of a submission agree. -/
structure Accounts (library : SharedLibraryIndex) (s : Submission σ) : Prop where
  recorded : ∀ key, s.resources.get? key =
    ((s.shipment.lastPrivate? key).map ArtifactDescriptor.toLocalResource).or
      ((library.get? key).map sharedResource)
  forEveryone : ∀ shipped ∈ s.shipment.descriptors, shipped.visibility = .shared →
    ∃ entry ∈ library.entries, shipped = .ofStatus entry.fileName entry.status .shared

/-- The shared libraries open the accounts. -/
theorem accounts_withProvided (uploader : Uploader) (world : σ) :
    Accounts uploader.shared
      { Submission.start world with resources := uploader.withProvided .empty } where
  recorded key := by
    rw [get?_withProvided]
    simp [Submission.start, Shipment.empty, Shipment.lastPrivate?]
  forEveryone := by
    intro shipped hshipped
    cases hshipped

/-- An artifact that is registered and shipped keeps the accounts. -/
theorem Accounts.push {key directory : String} {source : Location} {registration : Registration}
    (h : Accounts uploader.shared s)
    (step : Registers host uploader key source directory replication s registration t) :
    Accounts uploader.shared
      { t with shipment := t.shipment.push registration.descriptor } where
  recorded key := by
    have hvisibility := step.visibility
    rw [step.resources, step.shipment, Shipment.lastPrivate?_push]
    cases hprivate : registration.isPrivate with
    | false =>
        rw [hprivate] at hvisibility
        simp [hvisibility, h.recorded key]
    | true =>
        rw [hprivate] at hvisibility
        simp only [hvisibility, if_true, and_true, ResourceTable.get?_register, h.recorded key]
        split <;> rfl
  forEveryone := by
    intro shipped hshipped hshared
    rw [step.shipment] at hshipped
    rcases List.mem_append.1 hshipped with hold | hnew
    · exact h.forEveryone shipped hold hshared
    · obtain rfl := List.mem_singleton.1 hnew
      refine step.of_shared ?_
      have hvisibility := step.visibility
      cases hprivate : registration.isPrivate with
      | false => rfl
      | true => simp [hprivate, hshared] at hvisibility

/-- So do registrations one after the other. -/
theorem Accounts.registrations {done : List (PlanEntry × Registration)}
    (h : Accounts uploader.shared s)
    (run : Registrations host uploader replication s done t) :
    Accounts uploader.shared t := by
  induction run with
  | nil => exact h
  | cons first others ih => exact ih (h.push (registerSingle_ok_iff.1 first))

theorem Accounts.registerMany {inputs : List Location} {logicalRoot : String}
    {classpath : List String} (h : Accounts uploader.shared s)
    (run : (uploader.registerMany host inputs logicalRoot replication).outcome s =
      (.ok classpath, t)) : Accounts uploader.shared t := by
  obtain ⟨-, plan, world, done, -, registered, -, -⟩ := registerMany_ok_iff.1 run
  exact Accounts.registrations (s := { s with world }) ⟨h.recorded, h.forEveryone⟩ registered

/-- What the table says of a shipped artifact: the record of the private artifact shipped last
under its key, and its own if there is none. -/
theorem Accounts.resource (h : Accounts uploader.shared s) {shipped : ArtifactDescriptor}
    (hshipped : shipped ∈ s.shipment.descriptors) :
    s.resources.get? shipped.key =
      some ((s.shipment.lastPrivate? shipped.key).getD shipped).toLocalResource := by
  rw [h.recorded]
  cases hlast : s.shipment.lastPrivate? shipped.key with
  | some last => rfl
  | none =>
      have hshared : shipped.visibility = .shared := by
        have hnot := Shipment.lastPrivate?_eq_none.1 hlast shipped hshipped rfl
        cases hvisibility : shipped.visibility with
        | application => exact absurd hvisibility hnot
        | shared => rfl
      obtain ⟨entry, hentry, rfl⟩ := h.forEveryone shipped hshipped hshared
      have found : uploader.shared.get? entry.fileName = some entry :=
        SharedLibraryIndex.get?_eq_some.2 ⟨hentry, rfl⟩
      simp [ArtifactDescriptor.ofStatus, found, sharedResource]

end Uploader

/-! ## Stage runs -/

namespace CommandLine

open Uploader Sample

variable {around : Surroundings} {ready : Preparation} {uploader : Uploader}
  {options : StageOptions} {outcome : StagingOutcome} {disk : Disk} {after : Submission Disk}

theorem accounts_of_stageAll
    (run : (stageAll around ready uploader options).outcome (.start disk) =
      (.ok outcome, after)) : Accounts uploader.shared after := by
  obtain ⟨bundled, classpath, bundle, inputs, -⟩ := stageAll_ok_iff.1 run
  have opened := accounts_withProvided uploader disk
  have middle : Accounts uploader.shared bundled := by
    obtain ⟨-, rfl⟩ | ⟨_, _, _, _, -, -, registered, rfl⟩ := stageBundle_ok_iff.1 bundle
    · exact opened
    · exact opened.push registered
  obtain ⟨locations, -, h⟩ := stageInputs_ok_iff.1 inputs
  split at h
  · obtain ⟨-, rfl⟩ := h
    exact middle
  · exact middle.registerMany h

/-- **The table against the shipment after a stage run.**  No shipped artifact is missing from
the table.  Its key has the record of the private artifact shipped last under it, and the
artifact's own if there is none; so the table contradicts it only if that one does. -/
theorem stageRun_resource (run : StageRun around ready options disk uploader outcome after) :
    ∀ shipped ∈ outcome.shipped,
      outcome.resources.get? shipped.key =
        some (((Shipment.mk outcome.remotePaths outcome.shipped).lastPrivate? shipped.key).getD
          shipped).toLocalResource ∧
      (outcome.resources.get? shipped.key = some shipped.toLocalResource ↔
        ∀ last, (Shipment.mk outcome.remotePaths outcome.shipped).lastPrivate? shipped.key = some last →
          last.toLocalResource = shipped.toLocalResource) := by
  obtain ⟨opened, -, run⟩ := run
  intro shipped hshipped
  have accounts := accounts_of_stageAll run
  obtain ⟨_, _, _, _, rfl⟩ := stageAll_ok_iff.1 run
  have resource := accounts.resource hshipped
  refine ⟨resource, ?_⟩
  change after.resources.get? shipped.key = _ ↔
    ∀ last, after.shipment.lastPrivate? shipped.key = some last → _
  rw [resource]
  cases after.shipment.lastPrivate? shipped.key with
  | none => simp
  | some last => simp

/-- The bundle, and two inputs that go to one key. -/
theorem stageRun_resource_sample :
    ∃ outcome, (staging collision).1.toOption = some outcome ∧
      outcome.shipped.map ArtifactDescriptor.size = [0, 1, 2] ∧
      ∀ shipped ∈ outcome.shipped,
        outcome.resources.get? shipped.key =
          some (((Shipment.mk outcome.remotePaths outcome.shipped).lastPrivate? shipped.key).getD
            shipped).toLocalResource := by
  have sizes : (staging collision).1.toOption.map
      (fun outcome => outcome.shipped.map ArtifactDescriptor.size) = some [0, 1, 2] := by
    decide +kernel
  obtain ⟨outcome, answered, hsizes⟩ := Option.map_eq_some_iff.1 sizes
  exact ⟨outcome, answered, hsizes, fun shipped hshipped =>
    (stageRun_resource (stageRun_of_staging answered) shipped hshipped).1⟩

/-- Two inputs of one name go to one key, and the table keeps the record of the second. -/
theorem stageRun_contradicts :
    ¬ ∀ (root : String) (around : Surroundings) (ready : Preparation) (options : StageOptions)
      (disk : Disk) (uploader : Uploader) (outcome : StagingOutcome) (after : Submission Disk),
      ready.host = Disk.host root →
        StageRun around ready options disk uploader outcome after →
          ∀ shipped ∈ outcome.shipped,
            outcome.resources.get? shipped.key = some shipped.toLocalResource := by
  intro claim
  have refuted : (staging collision).1.toOption.any (fun outcome =>
      outcome.shipped.any fun shipped =>
        outcome.resources.get? shipped.key ≠ some shipped.toLocalResource) = true := by
    decide +kernel
  obtain ⟨outcome, answered, hany⟩ := (Option.any_eq_true _ _).1 refuted
  obtain ⟨shipped, hshipped, hne⟩ := List.any_eq_true.1 hany
  exact of_decide_eq_true hne
    (claim "r" _ _ _ _ _ _ _ rfl (stageRun_of_staging answered) shipped hshipped)

end CommandLine

end ArtifactStaging
