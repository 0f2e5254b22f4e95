/-
# ArtifactStaging.Proofs.CommandLine.StageRun -- the parts of a stage run

A run that stages everything registers the shared libraries, then the distribution
bundle if one is given, then the inputs if there are any.  `stageAll_ok_iff` takes a
successful run apart into these, and `stageBundle_ok_iff` and `stageInputs_ok_iff` say
what the last two are in terms of registrations.  What a run is prepared with is read off
the settings by `prepare_ok_iff`.
-/
import ArtifactStaging.CommandLine.Run
import ArtifactStaging.Proofs.Staging.Registering

set_option autoImplicit false

namespace ArtifactStaging.CommandLine

variable {around : Surroundings} {ready : Preparation} {uploader : Uploader}
  {options : StageOptions} {outcome : StagingOutcome} {s t : Submission Disk}

theorem stageBundle_ok_iff {raw : Option String} :
    (stageBundle around ready uploader raw).outcome s = (.ok (), t) ↔
      (raw = none ∧ t = s) ∨
      ∃ text bundle registration u, raw = some text ∧ inputLocation around text = .ok bundle ∧
        uploader.Registers ready.host bundle.name bundle "" ready.settings.replication s
          registration u ∧
        t = { u with shipment := u.shipment.push registration.descriptor } := by
  cases raw with
  | none =>
      rw [stageBundle, Run.pure_ok_iff]
      simp
  | some text =>
      simp only [stageBundle, Run.bind_ok_iff, Run.ofExcept_ok_iff, Except.mapError_ok_iff,
        Run.mapError_ok_iff, Uploader.registerSingle_ok_iff, Submission.outcome_ship]
      constructor
      · rintro ⟨bundle, _, ⟨parsed, rfl⟩, registration, u, registered, shipped⟩
        cases shipped
        exact .inr ⟨text, bundle, registration, u, rfl, parsed, registered, rfl⟩
      · rintro (⟨hraw, -⟩ | ⟨_, bundle, registration, u, hraw, parsed, registered, rfl⟩)
        · cases hraw
        · cases hraw
          exact ⟨bundle, s, ⟨parsed, rfl⟩, registration, u, registered, rfl⟩

theorem stageInputs_ok_iff {inputs classpath : List String} :
    (stageInputs around ready uploader inputs).outcome s = (.ok classpath, t) ↔
      ∃ locations, inputs.mapM (inputLocation around) = .ok locations ∧
        if locations.isEmpty then classpath = [] ∧ t = s
        else (uploader.registerMany ready.host locations ready.settings.resourcesDirectory
          ready.settings.replication).outcome s = (.ok classpath, t) := by
  simp only [stageInputs, Run.bind_ok_iff, Run.ofExcept_ok_iff, Except.mapError_ok_iff]
  constructor
  · rintro ⟨locations, _, ⟨parsed, rfl⟩, h⟩
    refine ⟨locations, parsed, ?_⟩
    split
    · next empty =>
      rw [if_pos empty, Run.pure_ok_iff] at h
      exact h
    · next inhabited =>
      rw [if_neg inhabited, Run.mapError_ok_iff] at h
      exact h
  · rintro ⟨locations, parsed, h⟩
    refine ⟨locations, s, ⟨parsed, rfl⟩, ?_⟩
    split
    · next empty =>
      rw [if_pos empty] at h
      exact Run.pure_ok_iff.2 h
    · next inhabited =>
      rw [if_neg inhabited] at h
      exact Run.mapError_ok_iff.2 h

theorem stageAll_ok_iff :
    (stageAll around ready uploader options).outcome s = (.ok outcome, t) ↔
      ∃ bundled classpath,
        (stageBundle around ready uploader options.distBundle).outcome
          { s with resources := uploader.withProvided s.resources } = (.ok (), bundled) ∧
        (stageInputs around ready uploader options.inputs).outcome bundled =
          (.ok classpath, t) ∧
        outcome = .ofSubmission uploader uploader.providedClasspath classpath t := by
  have provides : (uploader.registerProvided : Run (Submission Disk) Failure _).outcome s =
      (.ok uploader.providedClasspath,
        { s with resources := uploader.withProvided s.resources }) := rfl
  simp only [stageAll, Run.bind_ok_iff, provides]
  constructor
  · rintro ⟨_, _, heq, _, bundled, bundle, classpath, _, inputs, viewed⟩
    cases heq
    cases viewed
    exact ⟨bundled, classpath, bundle, inputs, rfl⟩
  · rintro ⟨bundled, classpath, bundle, inputs, rfl⟩
    exact ⟨_, _, rfl, (), bundled, bundle, classpath, t, inputs, rfl⟩

/-- What a run is prepared with comes from the settings in effect. -/
theorem prepare_ok_iff {command : Command} {given : Option String} {files : FileSystem} :
    prepare around command given files = .ok ready ↔
      settings around command files = .ok ready.settings ∧
        homeLocation around ready.settings = .ok ready.home ∧
        applicationId around given = .ok ready.applicationId ∧
        ready.settings.sharedLocations = .ok ready.shared ∧
        ready.settings.stagingOptions = .ok ready.options ∧
        ready.host = storageHost around ready.settings := by
  simp only [prepare, Except.bind_ok_iff, Except.mapError_ok_iff, Except.ok.injEq]
  constructor
  · rintro ⟨settings, effective, home, located, id, parsed, shared, listed, options, opened, rfl⟩
    exact ⟨effective, located, parsed, listed, opened, rfl⟩
  · rintro ⟨effective, located, parsed, listed, opened, hosted⟩
    refine ⟨_, effective, _, located, _, parsed, _, listed, _, opened, ?_⟩
    rw [← hosted]

/-- A successful run on a disk, up to its outcome: opening, then staging everything. -/
def StageRun (around : Surroundings) (ready : Preparation) (options : StageOptions)
    (disk : Disk) (uploader : Uploader) (outcome : StagingOutcome) (after : Submission Disk) :
    Prop :=
  ∃ opened,
    (Uploader.open? ready.host ready.home ready.shared ready.applicationId
      ready.options).outcome disk = (.ok uploader, opened) ∧
    (stageAll around ready uploader options).outcome (.start opened) = (.ok outcome, after)

/-- The command `stage` is such a run on what was prepared, whose outcome is delivered. -/
theorem stage_ok_iff {command : Command} {printed : String} {disk after : Disk} :
    (stage around command options).outcome disk = (.ok printed, after) ↔
      ∃ ready uploader outcome staged,
        prepare around command options.applicationId disk.files = .ok ready ∧
        StageRun around ready options disk uploader outcome staged ∧
        (deliver (.ofOutcome around.now outcome) options.out).outcome staged.world =
          (.ok printed, after) := by
  simp only [stage, Run.bind_ok_iff, Run.ofExcept_ok_iff, Run.mapError_ok_iff]
  constructor
  · rintro ⟨_, _, viewed, ready, _, ⟨prepared, rfl⟩, uploader, opened, hopened, outcome, world,
      staged, delivered⟩
    cases viewed
    rw [Run.outcome_ofFunction] at staged
    obtain ⟨answered, rfl⟩ := Prod.mk.inj staged
    exact ⟨ready, uploader, outcome, _, prepared, ⟨opened, hopened, Prod.ext answered rfl⟩,
      delivered⟩
  · rintro ⟨ready, uploader, outcome, staged, prepared, ⟨opened, hopened, run⟩, delivered⟩
    refine ⟨disk, disk, rfl, ready, disk, ⟨prepared, rfl⟩, uploader, opened, hopened, outcome,
      staged.world, ?_, delivered⟩
    rw [Run.outcome_ofFunction, run]

end ArtifactStaging.CommandLine

/-! ## A run on the small machine -/

namespace ArtifactStaging.Sample

open CommandLine

/-- The settings that the machine is opened with. -/
def settings : Settings :=
  ⟨some "h", "n", ["h:/l"], some "r", 1, "l", options.retry, options.distPattern.rule,
    ⟨"info", .text⟩⟩

/-- What a run on the machine is prepared with. -/
def ready : Preparation := ⟨host, here "h", applicationId, [there "/l"], options, settings⟩

/-- The working directory is the root. -/
def around : Surroundings := ⟨none, "/t", "/", ⟨0, 0⟩, 0⟩

/-- A run with the bundle and two inputs of one name. -/
def collision : StageOptions := ⟨none, none, none, some "x/d.q", none, ["x/a", "y/a"]⟩

/-- Staging everything on the opened machine. -/
def staging (options : StageOptions) : Except Failure StagingOutcome × Submission Disk :=
  (stageAll around ready (uploader (here "h")) options).outcome (start (here "h"))

theorem stageRun_of_staging {options : StageOptions} {outcome : StagingOutcome}
    (answered : (staging options).1.toOption = some outcome) :
    StageRun around ready options disk (uploader (here "h")) outcome (staging options).2 :=
  ⟨_, openAt_eq library_found, Run.outcome_eq_of_toOption answered⟩

end ArtifactStaging.Sample
