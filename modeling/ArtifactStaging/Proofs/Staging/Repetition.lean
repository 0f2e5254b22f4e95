/-
# ArtifactStaging.Proofs.Staging.Repetition -- a submission of remote files, made again

Opening makes the application's directory, unless something is there, before it looks at
anything else.  When it is repeated, the directory is there, so nothing is made and everything
is seen as before (`open?_again`).  What was made may lie inside a directory that is listed: the
first submission lists it with the directory already made, and so does the second.

From there on a submission whose inputs are all remote only looks at the disk
(`Disk.OnlyLooks`, `stageWith_remote`), and nothing that it looks at shows the clock.  So the
second one answers what the first one did, however much later it is made (`submit_again`).
-/
import ArtifactStaging.Manifest.Basic
import ArtifactStaging.Proofs.Location.Joining
import ArtifactStaging.Proofs.Staging.Planning
import ArtifactStaging.Proofs.Storage.Growth

set_option autoImplicit false

namespace ArtifactStaging

/-! ## Looking -/

namespace Disk

variable {ε δ α β : Type} {root : String} {disk after : Disk} {location : Location}

/-- The disk at another time. -/
def withClock (disk : Disk) (clock : Int64) : Disk :=
  { disk with files := { disk.files with now := clock } }

/-- A run that leaves the disk alone and answers the same at any time. -/
def OnlyLooks (run : Run Disk ε α) : Prop :=
  ∀ disk clock, run.outcome (disk.withClock clock) =
    ((run.outcome disk).1, disk.withClock clock)

namespace OnlyLooks

variable {run : Run Disk ε α}

theorem unchanged (looks : OnlyLooks run) {result : Except ε α}
    (h : run.outcome disk = (result, after)) : after = disk := by
  have same : run.outcome disk = ((run.outcome disk).1, disk) := looks disk disk.files.now
  rw [h] at same
  exact (Prod.mk.inj same).2

theorem later (looks : OnlyLooks run) {result : Except ε α} (clock : Int64)
    (h : run.outcome disk = (result, after)) :
    run.outcome (disk.withClock clock) = (result, disk.withClock clock) := by
  rw [looks disk clock, h]

theorem pure (a : α) : OnlyLooks (Pure.pure a : Run Disk ε α) := fun _ _ => rfl

theorem ofExcept (result : Except ε α) : OnlyLooks (Run.ofExcept result) := fun _ _ => rfl

theorem bind {next : α → Run Disk ε β} (looks : OnlyLooks run)
    (others : ∀ a, OnlyLooks (next a)) : OnlyLooks (run >>= next) := by
  intro disk clock
  rw [Run.outcome_bind, Run.outcome_bind, looks disk clock]
  cases hrun : run.outcome disk with
  | mk result after =>
      obtain rfl := looks.unchanged hrun
      cases result with
      | ok a => exact others a after clock
      | error e => rfl

theorem mapError {rename : ε → δ} (looks : OnlyLooks run) : OnlyLooks (run.mapError rename) := by
  intro disk clock
  rw [Run.outcome_mapError, looks disk clock]
  rfl

/-! The storage looks at entries, which say when they were modified, and at no clock. -/

theorem pathExists : OnlyLooks ((storage root).pathExists location) := fun _ _ => rfl

theorem isDirectory : OnlyLooks ((storage root).isDirectory location) := fun _ _ => rfl

theorem stat : OnlyLooks ((storage root).stat location) := fun _ _ => rfl

theorem listFiles : OnlyLooks ((storage root).listFiles location) := fun _ _ => rfl

end OnlyLooks

end Disk

namespace SharedLibraryIndex

open Disk

variable {root : String} {roots : List Location} {location : Location} {rootIndex : Nat}

theorem onlyLooks_scanRoot : OnlyLooks (scanRoot (storage root) rootIndex location) := by
  refine OnlyLooks.pathExists.bind fun present => ?_
  split
  · exact .pure _
  refine OnlyLooks.isDirectory.bind fun directory => ?_
  split
  · exact .pure _
  exact OnlyLooks.listFiles.bind fun files => .pure _

theorem onlyLooks_scanFrom : OnlyLooks (scanFrom (storage root) rootIndex roots) := by
  induction roots generalizing rootIndex with
  | nil => exact .pure _
  | cons location roots ih =>
      exact onlyLooks_scanRoot.bind fun found => ih.bind fun others => .pure _

/-- The shared libraries are found by looking. -/
theorem onlyLooks_build : OnlyLooks (build (storage root) roots) :=
  onlyLooks_scanFrom.mapError.bind fun _ => .ofExcept _

end SharedLibraryIndex

theorem Plan.onlyLooks_ofInput {root logicalRoot : String} {input : Location} :
    Disk.OnlyLooks (ofInput (Disk.host root) logicalRoot input) := by
  intro disk clock
  rw [outcome_ofInput_disk, outcome_ofInput_disk]
  rfl

/-- Planning looks. -/
theorem Plan.onlyLooks_ofInputs {root logicalRoot : String} {inputs : List Location} :
    Disk.OnlyLooks (ofInputs (Disk.host root) logicalRoot inputs) := by
  induction inputs with
  | nil => exact .pure _
  | cons input rest ih =>
      exact onlyLooks_ofInput.bind fun entries => ih.bind fun others => .pure _

/-! ## A directory that was made is there -/

namespace Disk

variable {root : String} {disk after : Disk} {location : Location} {permission : Permission}

theorem pathExists_true_iff :
    ((storage root).pathExists location).outcome disk = (.ok true, after) ↔
      (∃ entry, disk.probe root location = .ok (some entry)) ∧ disk = after := by
  change ((disk.probe root location).map Option.isSome, disk) = _ ↔ _
  simp [Except.map_ok_iff, Option.isSome_iff_exists]

theorem probe_of_makeDirectories
    (h : ((storage root).makeDirectories location permission).outcome disk = (.ok (), after)) :
    ∃ mode, after.probe root location = .ok (some (.directory mode)) := by
  obtain ⟨place, mode, led⟩ :=
    FileSystem.isDirectory_iff.1 (isDirectory_of_makeDirectories root disk location h)
  exact ⟨mode, by rw [probe, FileSystem.entry, led]; rfl⟩

end Disk

namespace Uploader

open Disk

variable {root logicalRoot : String} {home : Location} {roots inputs : List Location}
  {applicationId : ApplicationId} {options : StagingOptions} {uploader : Uploader}
  {replication : UInt16} {disk opened after : Disk}

/-- Opening finds something where the directory goes and leaves the disk alone, or it finds nothing
and makes the directory; then it looks for the shared libraries. -/
theorem open?_ok_iff :
    (open? (Disk.host root) home roots applicationId options).outcome disk =
        (.ok uploader, opened) ↔
      ∃ directory shared,
        directory = ArtifactStaging.applicationDirectory home options.space applicationId ∧
        (((∃ entry, disk.probe root directory = .ok (some entry)) ∧ opened = disk) ∨
          ((storage root).pathExists directory).outcome disk = (.ok false, disk) ∧
          ((storage root).makeDirectories directory Permission.ownerOnly).outcome disk =
            (.ok (), opened)) ∧
        (SharedLibraryIndex.build (storage root) roots).outcome opened = (.ok shared, opened) ∧
        uploader = ⟨home, applicationId, directory, shared, options⟩ := by
  simp only [open?, Run.bind_ok_iff, Run.mapError_ok_iff, Run.pure_ok_iff]
  constructor
  · rintro ⟨_, _, ⟨present, asked, hpresent, hmade⟩, shared, _, hshared, rfl, rfl⟩
    obtain rfl := SharedLibraryIndex.onlyLooks_build.unchanged hshared
    obtain rfl := (OnlyLooks.pathExists.unchanged hpresent).symm
    refine ⟨_, shared, rfl, ?_, hshared, rfl⟩
    cases present with
    | true =>
        obtain ⟨-, rfl⟩ := Run.pure_ok_iff.1 hmade
        exact .inl ⟨(pathExists_true_iff.1 hpresent).1, rfl⟩
    | false =>
        rw [Bool.not_false, if_pos rfl] at hmade
        exact .inr ⟨hpresent, hmade⟩
  · rintro ⟨_, shared, rfl, ⟨found, rfl⟩ | ⟨absent, made⟩, hshared, rfl⟩
    · exact ⟨(), _, ⟨true, _, pathExists_true_iff.2 ⟨found, rfl⟩, rfl⟩, shared, _, hshared, rfl,
        rfl⟩
    · exact ⟨(), _, ⟨false, _, absent, made⟩, shared, _, hshared, rfl, rfl⟩

/-- Opening again on the disk that opening left, then or later, answers the same uploader and
changes nothing. -/
theorem open?_again (clock : Int64)
    (h : (open? (Disk.host root) home roots applicationId options).outcome disk =
      (.ok uploader, opened)) :
    (open? (Disk.host root) home roots applicationId options).outcome (opened.withClock clock) =
      (.ok uploader, opened.withClock clock) := by
  obtain ⟨directory, shared, hdirectory, way, hshared, heq⟩ := open?_ok_iff.1 h
  have there : ∃ entry, opened.probe root directory = .ok (some entry) := by
    rcases way with ⟨found, rfl⟩ | ⟨-, made⟩
    · exact found
    · obtain ⟨mode, found⟩ := probe_of_makeDirectories made
      exact ⟨_, found⟩
  exact open?_ok_iff.2 ⟨directory, shared, hdirectory, .inl ⟨there, rfl⟩,
    SharedLibraryIndex.onlyLooks_build.later clock hshared, heq⟩

/-! ## Remote inputs -/

/-- The files of remote inputs are remote. -/
theorem isRemote_of_ofInputs {plan : List PlanEntry} {world : Disk}
    (remote : ∀ input ∈ inputs, input.isRemote = true)
    (h : (Plan.ofInputs (Disk.host root) logicalRoot inputs).outcome disk = (.ok plan, world)) :
    ∀ entry ∈ plan, entry.source.isRemote = true := by
  intro entry hentry
  obtain ⟨input, hinput, brings⟩ := (Plan.mem_ofInputs_disk h).1 hentry
  have hremote := remote input hinput
  unfold Plan.Brings at brings
  split at brings
  · obtain ⟨names, -, hnames⟩ := brings
    simp only [Plan.entryAt?, Location.localPath?_eq_none.2 hremote, Option.some.injEq] at hnames
    rw [← hnames, Location.isRemote_join]
    exact hremote
  · rw [brings]
    exact hremote

/-- Remote files are only looked at where they are. -/
theorem Registrations.remote {s t : Submission Disk} {done : List (PlanEntry × Registration)}
    (run : Registrations (Disk.host root) uploader replication s done t)
    (remote : ∀ entry ∈ done, entry.1.source.isRemote = true) :
    t.world = s.world ∧ ∀ clock, Registrations (Disk.host root) uploader replication
      { s with world := s.world.withClock clock } done
      { t with world := s.world.withClock clock } := by
  induction run with
  | nil s => exact ⟨rfl, fun clock => .nil _⟩
  | cons first others ih =>
      obtain ⟨hfirst, hothers⟩ := List.forall_mem_cons.1 remote
      obtain ⟨hworld, hlater⟩ := ih hothers
      cases registerSingle_ok_iff.1 first with
      | alreadyRemote here found =>
          obtain rfl := OnlyLooks.stat.unchanged found
          exact ⟨hworld, fun clock => .cons (registerSingle_ok_iff.2
            (.alreadyRemote here (OnlyLooks.stat.later clock found))) (hlater clock)⟩
      | reusedShared here shadow =>
          exact ⟨hworld, fun clock => .cons (registerSingle_ok_iff.2 (.reusedShared here shadow))
            (hlater clock)⟩
      | uploaded here =>
          rw [Location.localPath?_eq_none.2 hfirst] at here
          nomatch here

/-! ## Submissions -/

variable {σ : Type}

/-- The shared libraries, then the inputs, and what was staged. -/
def stageWith (host : Host σ) (uploader : Uploader) (inputs : List Location)
    (logicalRoot : String) (replication : UInt16) :
    Run (Submission σ) StagingError StagingOutcome := do
  let provided ← uploader.registerProvided
  let classpath ← uploader.registerMany host inputs logicalRoot replication
  Run.view fun submission => .ofSubmission uploader provided classpath submission

/-- One submission, from opening to its outcome. -/
def submit (host : Host σ) (home : Location) (roots : List Location)
    (applicationId : ApplicationId) (options : StagingOptions) (inputs : List Location)
    (logicalRoot : String) (replication : UInt16) : Run σ StagingError StagingOutcome := do
  let uploader ← open? host home roots applicationId options
  .ofFunction fun world =>
    let (result, submission) :=
      (uploader.stageWith host inputs logicalRoot replication).outcome (.start world)
    (result, submission.world)

/-- Staging remote inputs leaves the disk alone and is the same at any time. -/
theorem stageWith_remote {s t : Submission Disk} {outcome : StagingOutcome}
    (remote : ∀ input ∈ inputs, input.isRemote = true)
    (h : (uploader.stageWith (Disk.host root) inputs logicalRoot replication).outcome s =
      (.ok outcome, t)) :
    t.world = s.world ∧ ∀ clock,
      (uploader.stageWith (Disk.host root) inputs logicalRoot replication).outcome
        { s with world := s.world.withClock clock } =
        (.ok outcome, { t with world := s.world.withClock clock }) := by
  simp only [stageWith, Run.bind_ok_iff] at h ⊢
  obtain ⟨provided, _, hprovided, classpath, _, registered, viewed⟩ := h
  obtain ⟨names, rfl⟩ := Prod.mk.inj hprovided
  obtain ⟨shown, rfl⟩ := Prod.mk.inj viewed
  obtain ⟨checked, plan, world, done, planned, run, hdone, rfl⟩ := registerMany_ok_iff.1 registered
  obtain rfl := Plan.onlyLooks_ofInputs.unchanged planned
  obtain ⟨unchanged, later⟩ := run.remote fun entry hentry => by
    refine isRemote_of_ofInputs remote planned _ ?_
    have hmem : entry.1 ∈ done.map Prod.fst := List.mem_map_of_mem hentry
    rw [hdone] at hmem
    exact (List.mem_filter.1 hmem).1
  refine ⟨unchanged, fun clock => ⟨provided, _, Prod.ext names rfl, _, _,
    registerMany_ok_iff.2 ⟨checked, plan, _, done, Plan.onlyLooks_ofInputs.later clock planned,
      later clock, hdone, rfl⟩, Prod.ext shown rfl⟩⟩

/-- **A submission of remote inputs, made again.**  On the disk that the first one left, then or
later, it succeeds again, with the same outcome and so with the same digest in its manifest, and
it leaves the disk as it was. -/
theorem submit_again {outcome : StagingOutcome}
    (remote : ∀ input ∈ inputs, input.isRemote = true)
    (first : (submit (Disk.host root) home roots applicationId options inputs logicalRoot
      replication).outcome disk = (.ok outcome, after)) (clock : Int64) :
    ∃ outcome' after', (submit (Disk.host root) home roots applicationId options inputs
        logicalRoot replication).outcome (after.withClock clock) = (.ok outcome', after') ∧
      outcome' = outcome ∧ after' = after.withClock clock ∧
      ∀ createdAt createdLater, (StagingManifest.ofOutcome createdLater outcome').digest =
        (StagingManifest.ofOutcome createdAt outcome).digest := by
  obtain ⟨uploader, opened, hopened, staged⟩ := Run.bind_ok_iff.1 first
  rw [Run.outcome_ofFunction] at staged
  cases hstaged : (uploader.stageWith (Disk.host root) inputs logicalRoot replication).outcome
      (.start opened) with
  | mk result submission =>
      rw [hstaged] at staged
      cases staged
      obtain ⟨unchanged, later⟩ := stageWith_remote remote hstaged
      have again : (uploader.stageWith (Disk.host root) inputs logicalRoot replication).outcome
          (.start (opened.withClock clock)) = _ := later clock
      rw [show submission.world = opened from unchanged]
      refine ⟨outcome, opened.withClock clock,
        Run.bind_ok_iff.2 ⟨uploader, _, open?_again clock hopened, ?_⟩, rfl, rfl, fun _ _ => rfl⟩
      rw [Run.outcome_ofFunction, again]
      rfl

open Sample in
/-- The home directory is remote and lies in the directory that is an input. -/
theorem submit_again_sample :
    ∃ outcome after outcome' after',
      (submit Sample.host (there "/m") [there "/l"] Sample.applicationId Sample.options
        [there "/", there "/c"] "l" 1).outcome Sample.disk = (.ok outcome, after) ∧
      outcome.classpath = ["l"] ∧
      (submit Sample.host (there "/m") [there "/l"] Sample.applicationId Sample.options
        [there "/", there "/c"] "l" 1).outcome (after.withClock 9) = (.ok outcome', after') ∧
      outcome' = outcome := by
  have answered : ((submit Sample.host (there "/m") [there "/l"] Sample.applicationId
      Sample.options [there "/", there "/c"] "l" 1).outcome Sample.disk).1.toOption.map
        StagingOutcome.classpath = some ["l"] := by
    decide +kernel
  obtain ⟨outcome, houtcome, hclasspath⟩ := Option.map_eq_some_iff.1 answered
  have first := Run.outcome_eq_of_toOption houtcome
  have remote : ∀ input ∈ [there "/", there "/c"], input.isRemote = true := by decide
  obtain ⟨outcome', after', second, same, -, -⟩ := submit_again remote first 9
  exact ⟨outcome, _, outcome', after', first, hclasspath, second, same⟩

end Uploader

end ArtifactStaging
