/-
# ArtifactStaging.Proofs.CommandLine.ReadingBack -- the manifest of a stage run, read back

Every location in an outcome was read from text or was joined to one that was: the
application's directory to the home directory, a destination to the application's directory, a
shared library to its root, a file of a remote input to the input.  All of these are settled,
unless the home directory or a root dangles, so the manifest's text is read as the manifest
(`stageRun_manifest`).

A home directory that dangles spoils every manifest: the application's directory is written as
a URI, and no text at all is read as an outcome that holds it (`not_settled_of_stageRun`).
-/
import ArtifactStaging.Proofs.Location.ApplicationDirectory
import ArtifactStaging.Proofs.Manifest.Reading
import ArtifactStaging.Proofs.Staging.Accounts
import ArtifactStaging.Proofs.Staging.Planning
import ArtifactStaging.Proofs.Staging.Provenance

set_option autoImplicit false

namespace ArtifactStaging

namespace Uploader

variable {root : String} {home : Location} {roots : List Location} {applicationId : ApplicationId}
  {options : StagingOptions} {uploader : Uploader} {disk after : Disk} {replication : UInt16}

/-! ## What is shipped -/

/-- The locations that an uploader works with are firm. -/
structure Firm (uploader : Uploader) : Prop where
  directory : uploader.applicationDirectory.Firm
  shared : ∀ entry ∈ uploader.shared.entries, entry.status.path.Settled

/-- An uploader is firm if the home directory and every root are. -/
theorem firm_of_open? (hhome : home.Firm) (hroots : ∀ location ∈ roots, location.Firm)
    (h : (open? (Disk.host root) home roots applicationId options).outcome disk =
      (.ok uploader, after)) : uploader.Firm where
  directory := by
    rw [eq_of_open? h]
    exact hhome.join _
  shared := by
    intro entry hentry
    obtain ⟨location, hlocation, files, _, _, listed, hstatus, -⟩ := lists_of_open? h entry hentry
    obtain ⟨inner, hpath⟩ := Disk.path_of_listFiles (Prod.mk.inj listed).1 _ hstatus
    rw [hpath]
    exact ((hroots location hlocation).join inner).settled

variable {key directory : String} {source : Location} {s t : Submission Disk}
  {registration : Registration}

/-- A registration of a settled source describes a settled location. -/
theorem Firm.descriptor (firm : uploader.Firm) (settled : source.Settled)
    (step : Registers (Disk.host root) uploader key source directory replication s
      registration t) : registration.descriptor.path.Settled := by
  cases step with
  | alreadyRemote remote found =>
      obtain rfl := Disk.path_of_stat found
      exact settled
  | reusedShared here shadow =>
      exact firm.shared _ (SharedLibraryIndex.get?_eq_some.1 shadow).1
  | uploaded here free seen other named copied =>
      exact ((firm.directory.join _).join _).settled

/-- Everything that was shipped is at a settled location. -/
structure ShipsSettled (s : Submission Disk) : Prop where
  descriptors : ∀ shipped ∈ s.shipment.descriptors, shipped.path.Settled
  remotePaths : ∀ path ∈ s.shipment.remotePaths, path.Settled

theorem ShipsSettled.push (h : ShipsSettled s) (firm : uploader.Firm) (settled : source.Settled)
    (step : Registers (Disk.host root) uploader key source directory replication s
      registration t) :
    ShipsSettled { t with shipment := t.shipment.push registration.descriptor } := by
  have pushed := firm.descriptor settled step
  rw [step.shipment]
  refine ⟨fun shipped hshipped => ?_, fun path hpath => ?_⟩
  · rcases List.mem_append.1 hshipped with hold | hnew
    · exact h.descriptors shipped hold
    · obtain rfl := List.mem_singleton.1 hnew
      exact pushed
  · rcases List.mem_append.1 hpath with hold | hnew
    · exact h.remotePaths path hold
    · obtain rfl := List.mem_singleton.1 hnew
      exact pushed

theorem ShipsSettled.registrations {done : List (PlanEntry × Registration)}
    (h : ShipsSettled s) (firm : uploader.Firm)
    (settled : ∀ entry ∈ done, entry.1.source.Settled)
    (run : Registrations (Disk.host root) uploader replication s done t) : ShipsSettled t := by
  induction run with
  | nil => exact h
  | cons first others ih =>
      obtain ⟨hfirst, hothers⟩ := List.forall_mem_cons.1 settled
      exact ih (h.push firm hfirst (registerSingle_ok_iff.1 first)) hothers

end Uploader

/-- The files of settled inputs are at settled locations. -/
theorem Plan.settled_of_ofInputs {root logicalRoot : String} {inputs : List Location}
    {plan : List PlanEntry} {disk after : Disk} (settled : ∀ input ∈ inputs, input.Settled)
    (h : (ofInputs (Disk.host root) logicalRoot inputs).outcome disk = (.ok plan, after)) :
    ∀ entry ∈ plan, entry.source.Settled := by
  intro entry hentry
  obtain ⟨input, hinput, brings⟩ := (mem_ofInputs_disk h).1 hentry
  have hsettled := settled input hinput
  unfold Brings at brings
  split at brings
  · obtain ⟨names, -, hentry⟩ := brings
    unfold entryAt? at hentry
    split at hentry
    · obtain ⟨source, hsource, rfl⟩ := Option.map_eq_some_iff.1 hentry
      exact Location.settled_of_parse? ((Location.toOption_parse _).symm.trans hsource)
    · next remote =>
      obtain rfl := Option.some.inj hentry
      have firm := Location.firm_of_isRemote hsettled (Location.localPath?_eq_none.1 remote)
      exact (firm.join _).settled
  · obtain rfl := brings
    exact hsettled

theorem Uploader.ShipsSettled.registerMany {root logicalRoot : String} {uploader : Uploader}
    {inputs : List Location} {replication : UInt16} {classpath : List String}
    {s t : Submission Disk} (h : ShipsSettled s) (firm : uploader.Firm)
    (settled : ∀ input ∈ inputs, input.Settled)
    (run : (uploader.registerMany (Disk.host root) inputs logicalRoot replication).outcome s =
      (.ok classpath, t)) : ShipsSettled t := by
  obtain ⟨-, plan, world, done, planned, registered, hdone, -⟩ := registerMany_ok_iff.1 run
  have hplan := Plan.settled_of_ofInputs settled planned
  refine registrations (s := { s with world }) ⟨h.descriptors, h.remotePaths⟩ firm
    (fun entry hentry => hplan _ ?_) registered
  have hmem : entry.1 ∈ done.map Prod.fst := List.mem_map_of_mem hentry
  rw [hdone] at hmem
  exact (List.mem_filter.1 hmem).1

/-! ## Stage runs -/

namespace CommandLine

open Uploader

variable {root : String} {around : Surroundings} {command : Command} {given : Option String}
  {files : FileSystem} {ready : Preparation} {uploader : Uploader} {options : StageOptions}
  {outcome : StagingOutcome} {disk : Disk} {after : Submission Disk}

/-- The home directory was read, from the settings or else from the surroundings. -/
theorem settled_of_homeLocation {settings : Settings} {home : Location}
    (h : homeLocation around settings = .ok home) : home.Settled := by
  obtain ⟨configured, hconfigured, h⟩ := Except.bind_ok_iff.1 h
  rw [Except.mapError_ok_iff, Settings.homeLocation] at hconfigured
  split at hconfigured
  · obtain rfl := Except.ok.inj hconfigured
    dsimp only at h
    split at h
    · exact Location.settled_of_parse (Except.mapError_ok_iff.1 h)
    · cases h
  · obtain ⟨read, hparse, rfl⟩ := Except.map_ok_iff.1 hconfigured
    obtain rfl := Except.ok.inj h
    exact Location.settled_of_parse (Except.mapError_ok_iff.1 hparse)

/-- The host of a run is a disk, and the home directory and the roots are settled. -/
theorem settled_of_prepare (h : prepare around command given files = .ok ready) :
    (∃ root, ready.host = Disk.host root) ∧ ready.home.Settled ∧
      ∀ location ∈ ready.shared, location.Settled := by
  obtain ⟨-, located, -, listed, -, hosted⟩ := prepare_ok_iff.1 h
  refine ⟨⟨_, hosted⟩, settled_of_homeLocation located, fun location hlocation => ?_⟩
  obtain ⟨raw, -, hparse⟩ := (Except.mem_of_mapM_ok listed).1 hlocation
  exact Location.settled_of_parse (Except.mapError_ok_iff.1 hparse)

theorem settled_of_inputLocation {raw : String} {location : Location}
    (h : inputLocation around raw = .ok location) : location.Settled := by
  obtain ⟨first, hfirst, h⟩ := Except.bind_ok_iff.1 h
  split at h
  · obtain rfl := Except.ok.inj h
    exact Location.settled_of_parse hfirst
  · exact Location.settled_of_parse h

theorem shipsSettled_of_stageAll (hosted : ready.host = Disk.host root) (firm : uploader.Firm)
    (run : (stageAll around ready uploader options).outcome (.start disk) =
      (.ok outcome, after)) : ShipsSettled after := by
  obtain ⟨bundled, classpath, bundle, inputs, -⟩ := stageAll_ok_iff.1 run
  have opened : ShipsSettled
      { Submission.start disk with resources := uploader.withProvided .empty } :=
    ⟨fun _ hshipped => (nomatch hshipped), fun _ hpath => (nomatch hpath)⟩
  have middle : ShipsSettled bundled := by
    obtain ⟨-, rfl⟩ | ⟨_, _, _, _, -, parsed, registered, rfl⟩ := stageBundle_ok_iff.1 bundle
    · exact opened
    · rw [hosted] at registered
      exact opened.push firm (settled_of_inputLocation parsed) registered
  obtain ⟨locations, parsed, h⟩ := stageInputs_ok_iff.1 inputs
  split at h
  · obtain ⟨-, rfl⟩ := h
    exact middle
  · rw [hosted] at h
    refine middle.registerMany firm (fun input hinput => ?_) h
    obtain ⟨raw, -, hinput⟩ := (Except.mem_of_mapM_ok parsed).1 hinput
    exact settled_of_inputLocation hinput

/-- The outcome of a firm uploader is settled: what is recorded was shipped, or is a shared
library. -/
theorem settled_of_stageAll (hosted : ready.host = Disk.host root) (firm : uploader.Firm)
    (run : (stageAll around ready uploader options).outcome (.start disk) =
      (.ok outcome, after)) : outcome.Settled := by
  have ships := shipsSettled_of_stageAll hosted firm run
  have accounts := accounts_of_stageAll run
  obtain ⟨_, _, _, _, rfl⟩ := stageAll_ok_iff.1 run
  refine ⟨firm.directory.settled, ships.descriptors, ships.remotePaths, fun entry hentry => ?_⟩
  · obtain ⟨key, record⟩ := entry
    have found : after.resources.get? key = some record := Dictionary.mem_entries_iff.1 hentry
    rw [accounts.recorded, Option.or_eq_some_iff] at found
    rcases found with own | ⟨-, everyone⟩
    · obtain ⟨shipped, hlast, rfl⟩ := Option.map_eq_some_iff.1 own
      exact ships.descriptors shipped (List.mem_filter.1 (List.mem_of_getLast? hlast)).1
    · obtain ⟨library, hlibrary, rfl⟩ := Option.map_eq_some_iff.1 everyone
      exact firm.shared library (SharedLibraryIndex.get?_eq_some.1 hlibrary).1

/-- The outcome of a run is settled, unless a directory that it is given dangles. -/
theorem settled_of_stageRun (prepared : prepare around command given files = .ok ready)
    (firm : ¬ ready.home.Dangling) (roots : ∀ location ∈ ready.shared, ¬ location.Dangling)
    (run : StageRun around ready options disk uploader outcome after) : outcome.Settled := by
  obtain ⟨⟨root, hosted⟩, home, shared⟩ := settled_of_prepare prepared
  obtain ⟨opened, hopened, hstaged⟩ := run
  rw [hosted] at hopened
  exact settled_of_stageAll hosted (firm_of_open? ⟨home, firm⟩
    (fun location hlocation => ⟨shared location hlocation, roots location hlocation⟩) hopened)
    hstaged

/-- A home directory that dangles is not that of a settled application's directory. -/
theorem not_settled_of_stageRun (prepared : prepare around command given files = .ok ready)
    (dangling : ready.home.Dangling)
    (run : StageRun around ready options disk uploader outcome after) :
    ¬ outcome.applicationDirectory.Settled := by
  obtain ⟨⟨root, hosted⟩, home, -⟩ := settled_of_prepare prepared
  obtain ⟨opened, hopened, hstaged⟩ := run
  rw [hosted] at hopened
  obtain ⟨_, _, _, _, rfl⟩ := stageAll_ok_iff.1 hstaged
  change ¬ uploader.applicationDirectory.Settled
  rw [eq_of_open? hopened]
  exact Location.not_settled_join home.normal dangling
    (Text.trim_ne_nil (d := '.') (by simp) (by decide))

/-- **The manifest of a stage run, read back.**  If no directory of shared libraries dangles and
the clock shows an instant of the calendar, then the home directory decides.  Unless it dangles,
the manifest's text is read as the manifest, which passes the check of its digest.  If it does, no
text is read as a manifest of the run's outcome. -/
theorem stageRun_manifest (prepared : prepare around command given files = .ok ready)
    (shown : around.now.Shown) (roots : ∀ location ∈ ready.shared, ¬ location.Dangling)
    (run : StageRun around ready options disk uploader outcome after) :
    (¬ ready.home.Dangling →
      StagingManifest.parse (StagingManifest.ofOutcome around.now outcome).render =
          .ok (.ofOutcome around.now outcome) ∧
        (StagingManifest.ofOutcome around.now outcome).verify = .ok ()) ∧
    (ready.home.Dangling → ∀ text loaded, StagingManifest.parse text = .ok loaded →
      loaded.outcome ≠ outcome) := by
  constructor
  · intro firm
    exact ⟨StagingManifest.parse_render shown (settled_of_stageRun prepared firm roots run),
      StagingManifest.verify_ofOutcome _ _⟩
  · rintro dangling text loaded read rfl
    exact not_settled_of_stageRun prepared dangling run (StagingManifest.settled_of_parse read)

end CommandLine

/-! ## Runs on the small machine -/

namespace Sample

open CommandLine

/-- A run with the bundle and two inputs, for an application that is named. -/
def naming : StageOptions := { collision with applicationId := some "i" }

/-- The command of such a run, with a home directory. -/
def commandAt (home : String) : Command :=
  .stage ⟨none, some home, some ["h:///l"], some "r", none, none⟩ naming

/-- What is prepared for the command. -/
def preparing (home : String) : Except Failure Preparation :=
  prepare around (commandAt home) naming.applicationId disk.files

/-- A command that succeeds is a run of its home directory. -/
theorem stageRun_of_stage {home : String}
    (located : (preparing home).toOption.map (fun ready => (ready.home, ready.shared)) =
      some (here home, [there "/l"]))
    (answered : ((stage around (commandAt home) naming).outcome disk).1.toOption.isSome = true) :
    ∃ ready uploader outcome after, preparing home = .ok ready ∧ ready.home = here home ∧
      ready.shared = [there "/l"] ∧
      StageRun around ready naming disk uploader outcome after := by
  obtain ⟨printed, hprinted⟩ := Option.isSome_iff_exists.1 answered
  obtain ⟨ready, uploader, outcome, after, prepared, run, -⟩ :=
    stage_ok_iff.1 (Run.outcome_eq_of_toOption hprinted)
  have hready : preparing home = .ok ready := prepared
  rw [hready] at located
  obtain ⟨hhome, hshared⟩ := Prod.mk.inj (Option.some.inj located)
  exact ⟨ready, uploader, outcome, after, hready, hhome, hshared, run⟩

theorem shown_now : around.now.Shown := ⟨by decide, by decide, by decide⟩

/-- The home directory `h` does not dangle. -/
theorem stageRun_manifest_sample :
    ∃ ready uploader outcome after, preparing "h" = .ok ready ∧
      StageRun around ready naming disk uploader outcome after ∧ ¬ ready.home.Dangling ∧
      StagingManifest.parse (StagingManifest.ofOutcome around.now outcome).render =
        .ok (.ofOutcome around.now outcome) ∧
      (StagingManifest.ofOutcome around.now outcome).verify = .ok () := by
  obtain ⟨ready, uploader, outcome, after, prepared, hhome, hshared, run⟩ :=
    stageRun_of_stage (show (preparing "h").toOption.map _ = _ by decide +kernel)
      (by decide +kernel)
  have firm : ¬ ready.home.Dangling := by
    rw [hhome]
    rintro ⟨-, scheme, -, -, hpath⟩
    have hlast := congrArg List.getLast? hpath
    simp [here] at hlast
  have roots : ∀ location ∈ ready.shared, ¬ location.Dangling := by
    rw [hshared]
    intro location hlocation
    obtain rfl := List.mem_singleton.1 hlocation
    exact Location.not_dangling_of_scheme (by decide)
  exact ⟨ready, uploader, outcome, after, prepared, run, firm,
    (stageRun_manifest prepared shown_now roots run).1 firm⟩

/-- The home directory `ab:` is a path, and what is joined to it is written as a URI. -/
theorem stageRun_manifest_misread :
    ¬ ∀ (around : Surroundings) (command : Command) (options : StageOptions)
      (ready : Preparation) (disk : Disk) (uploader : Uploader) (outcome : StagingOutcome)
      (after : Submission Disk),
      prepare around command options.applicationId disk.files = .ok ready → around.now.Shown →
        StageRun around ready options disk uploader outcome after →
          ∃ loaded, StagingManifest.parse
              (StagingManifest.ofOutcome around.now outcome).render = .ok loaded ∧
            loaded.outcome = outcome ∧ loaded.verify = .ok () := by
  intro claim
  obtain ⟨ready, uploader, outcome, after, prepared, hhome, -, run⟩ :=
    stageRun_of_stage (show (preparing "ab:").toOption.map _ = _ by decide +kernel)
      (by decide +kernel)
  have dangling : ready.home.Dangling := by
    rw [hhome]
    exact ⟨rfl, ['a', 'b'], by decide, by decide, by decide⟩
  obtain ⟨loaded, read, heq, -⟩ := claim _ _ _ _ _ _ _ _ prepared shown_now run
  exact not_settled_of_stageRun prepared dangling run
    (heq ▸ StagingManifest.settled_of_parse read)

end Sample

end ArtifactStaging
