/-
# ArtifactStaging.Proofs.Staging.BundleNames -- bulk staging keeps off the bundle's names

Bulk registration leaves a file out if the last name of its destination is one of the
distribution bundle.  What it goes on to write goes by other names: a copy by the file name of
the source's path, a remote artifact by that of its location, a shadowed one by that of the
library in its place.  These are the last name of the destination as well
(`Plan.fileName_or_root`); the one exception is a remote root, which has no name, and where a
rule accepts the empty name it accepts every name (`accepts_of_accepts_empty`).

So no copy, no shipped artifact, no record and no archive of the classpath has a name of the
bundle, whether the registration succeeds or stops early (`registerMany_spares`).  It is
*files* that are left out.  A directory may have such a name, and if it does its files are
staged, and it is on the classpath (`registerMany_lists_directory`).
-/
import ArtifactStaging.Proofs.DistBundle.Rules
import ArtifactStaging.Proofs.Staging.Coverage
import ArtifactStaging.Proofs.Staging.Prefixes
import ArtifactStaging.Proofs.Staging.RemoteDirectories
import ArtifactStaging.Proofs.Staging.Shadowing

set_option autoImplicit false

namespace ArtifactStaging

/-! ## The names of a plan -/

namespace Plan

open PathText

variable {root logicalRoot : String} {disk : Disk} {input : Location} {entry : PlanEntry}

/-- What lies in a remote directory goes by the name of its source. -/
theorem fileName_of_listed {names : List String} (normal : input.Normal) (inhabited : names ≠ [])
    (proper : ∀ name ∈ names, name ≠ "" ∧ '/' ∉ name.toList) (remote : input.localPath? = none)
    (hentry : entryAt? logicalRoot input names = some entry) :
    entry.fileName = entry.source.name := by
  have made : ofRemote logicalRoot input.parent?
      ⟨input.join (Text.join "/" names), 0, 0, false⟩ = entry := by
    rw [entryAt?, remote] at hentry
    exact Option.some.inj hentry
  rw [ofRemote_eq normal inhabited proper rfl] at made
  have hsource : entry.source = input.join (Text.join "/" names) := by rw [← made]
  have hdestination : entry.destination = joinRelative logicalRoot (keptPlace input names) := by
    rw [← made]
  obtain hnil | ⟨parts, last, rfl⟩ := List.eq_nil_or_concat names
  · exact absurd hnil inhabited
  rw [List.concat_eq_append] at proper hsource hdestination
  rw [hsource, Location.name_join_concat normal proper]
  by_cases parent : input.parent?.isSome = true
  · have hkept : PathText.names (keptPlace input (parts ++ [last])) =
        PathText.names input.name ++ parts ++ [last] := by
      rw [keptPlace, if_pos parent, names_joinRelative, names_join proper, List.append_assoc]
    exact fileName_of_join hdestination hkept
  · obtain ⟨filled, whole⟩ := proper last (by simp)
    have hkept : PathText.names (keptPlace input (parts ++ [last])) = [] ++ [last] := by
      rw [keptPlace, if_neg parent]
      simpa using names_eq_singleton filled whole
    exact fileName_of_join hdestination hkept

/-- Every file of a plan goes by the name of its source, if that has one. -/
theorem fileName_or_root (normal : input.Normal) (wellNamed : disk.files.tree.WellNamed)
    (brings : Brings root logicalRoot disk input entry) :
    entry.fileName = entry.source.name ∨ entry.source.name = "" := by
  unfold Brings at brings
  split at brings
  · obtain ⟨names, ships, hentry⟩ := brings
    obtain ⟨inhabited, proper⟩ := FileSystem.names_of_mem_shipping wellNamed ships
    refine .inl ?_
    cases hlocal : input.localPath? with
    | some path =>
        rw [entryAt?, hlocal] at hentry
        obtain ⟨source, parsed, made⟩ := Option.map_eq_some_iff.1 hentry
        rw [Location.toOption_parse] at parsed
        exact fileName_of_pathBeneath normal (Location.localPath?_eq_some.1 hlocal).2 inhabited
          proper (by rw [← made]; exact parsed) (by rw [← made])
    | none => exact fileName_of_listed normal inhabited proper hlocal hentry
  · subst brings
    by_cases hroot : input.isRoot = true
    · exact .inr (by simp [single, Location.name, hroot])
    · exact .inl (fileName_single normal (by simpa using hroot))

end Plan

namespace Uploader

variable {σ : Type} {host : Host σ} {uploader : Uploader} {replication : UInt16}
  {root logicalRoot key directory : String} {rule : DistBundleRule} {source : Location}
  {inputs : List Location} {entry : PlanEntry} {plan : List PlanEntry}
  {done : List (PlanEntry × Registration)}

/-! ## What a registration writes -/

/-- A name that is none of the bundle's. -/
def Spares (uploader : Uploader) (name : String) : Prop :=
  uploader.options.distPattern.accepts name = false

/-- A file that is taken has a source that goes by a name of its own. -/
theorem spares_source {disk : Disk} {input : Location}
    (made : DistBundlePattern.ofRule rule = .ok uploader.options.distPattern)
    (normal : input.Normal) (wellNamed : disk.files.tree.WellNamed)
    (brings : Plan.Brings root logicalRoot disk input entry)
    (taken : uploader.Spares entry.fileName) : uploader.Spares entry.source.name := by
  rcases Plan.fileName_or_root normal wellNamed brings with same | nameless
  · rwa [← same]
  · rw [nameless, Spares, ← Bool.not_eq_true]
    intro hempty
    have every := DistBundlePattern.accepts_of_accepts_empty made hempty entry.fileName
    rw [taken] at every
    cases every

/-- On a disk, what is shipped goes by the name of the source. -/
theorem name_of_registers {s t : Submission Disk} {registration : Registration}
    (named : ∀ library ∈ uploader.shared.entries, library.fileName = library.status.name)
    (normal : source.Normal)
    (registers : Registers (Disk.host root) uploader key source directory replication s
      registration t) :
    registration.descriptor.path.name = source.name := by
  cases registers with
  | alreadyRemote remote found =>
      rw [← Disk.path_of_stat found]
      rfl
  | reusedShared here shadow =>
      obtain ⟨hmem, hname⟩ := SharedLibraryIndex.get?_eq_some.1 shadow
      rw [← hname, named _ hmem]
      rfl
  | uploaded here free seen other named copied =>
      exact (name_of_uploaded normal (.uploaded here free seen other named copied)).1

/-! ## What a registration copies -/

/-- Every copy among some changes goes to a location of a name that fits. -/
def CopiesFit (fits : String → Prop) (changes : List Change) : Prop :=
  ∀ source destination overwrite deleteSource,
    .copyFromLocal source destination overwrite deleteSource ∈ changes → fits destination.name

section

variable {fits : String → Prop} {s t u : Submission σ} {path : String} {changes more : List Change}

theorem CopiesFit.append (h : CopiesFit fits changes) (h' : CopiesFit fits more) :
    CopiesFit fits (changes ++ more) := by
  intro source destination overwrite deleteSource hmem
  rcases List.mem_append.1 hmem with hmem | hmem
  · exact h _ _ _ _ hmem
  · exact h' _ _ _ _ hmem

theorem copiesFit_nil : CopiesFit fits [] := by simp [CopiesFit]

/-- A local path that leads to nothing, or to a directory, leaves everything as it was. -/
theorem eq_of_registerSingle_unseen {answer : Except StagingError Registration}
    (here : source.localPath? = some path) (free : uploader.shared.get? source.name = none)
    (unseen : ∀ entry, (host.files s.world).entry path = .ok entry → entry.isDirectory = true)
    (run : (uploader.registerSingle host key source directory replication).outcome s =
      (answer, t)) : t = s := by
  simp only [registerSingle, here, free, registerLocal, Run.outcome_bind, Run.outcome_view] at run
  split at run
  · cases run
    rfl
  · next entry seen =>
    rw [if_pos (unseen entry seen)] at run
    cases run
    rfl

/-- However a registration ends, what it copies goes by the name of its source. -/
theorem registerSingle_copies {answer : Except StagingError Registration}
    (normal : source.Normal) (fit : fits source.name)
    (run : (uploader.registerSingle host key source directory replication).outcome s =
      (answer, t)) :
    ∃ changes, Effects host changes s.world t.world ∧ CopiesFit fits changes := by
  obtain ⟨changes, asks, effects⟩ := registerSingle_asks run
  have copied {path fileName : String} (here : source.localPath? = some path)
      (free : uploader.shared.get? source.name = none)
      (named : PathText.fileName? path = some fileName)
      (goes : ∀ from' destination overwrite deleteSource,
        .copyFromLocal from' destination overwrite deleteSource ∈ changes →
          destination = uploader.destinationOf directory fileName) :
      ∃ changes, Effects host changes s.world t.world ∧ CopiesFit fits changes := by
    by_cases unseen : ∀ entry, (host.files s.world).entry path = .ok entry →
      entry.isDirectory = true
    · refine ⟨[], ?_, copiesFit_nil⟩
      rw [eq_of_registerSingle_unseen here free unseen run]
      exact .refl _
    · push Not at unseen
      obtain ⟨entry, seen, other⟩ := unseen
      refine ⟨changes, effects, fun from' destination overwrite deleteSource hmem => ?_⟩
      obtain ⟨-, rfl⟩ := Location.localPath?_eq_some.1 here
      rw [goes _ _ _ _ hmem, name_destinationOf uploader directory named,
        ← Location.name_of_entry normal seen (by simpa using other) named]
      exact fit
  cases asks with
  | nothing other => exact ⟨[], effects, copiesFit_nil⟩
  | copy here free named => exact copied here free named (by simp [copyOf])
  | replicated here free named ends => exact copied here free named (by simp [copyOf])

/-- What registrations one after the other copy goes by the names of their sources. -/
theorem Registrations.copies (run : Registrations host uploader replication s done t)
    (fit : ∀ one ∈ done, one.1.source.Normal ∧ fits one.1.source.name) :
    ∃ changes, Effects host changes s.world t.world ∧ CopiesFit fits changes := by
  induction run with
  | nil => exact ⟨[], .refl _, copiesFit_nil⟩
  | cons first others ih =>
      obtain ⟨⟨normal, own⟩, rest⟩ := List.forall_mem_cons.1 fit
      obtain ⟨changes, effects, hchanges⟩ := registerSingle_copies normal own first
      obtain ⟨more, later, hmore⟩ := ih rest
      exact ⟨changes ++ more, effects.append later, hchanges.append hmore⟩

/-- The registered files are among those to register. -/
theorem Ends.mem {entries : List PlanEntry} {answer : Except StagingError (List String)}
    (ends : Ends host uploader replication entries done u answer t)
    {one : PlanEntry × Registration} (hone : one ∈ done) : one.1 ∈ entries := by
  have hmem : one.1 ∈ done.map Prod.fst := List.mem_map_of_mem hone
  cases ends with
  | completed all => rwa [all]
  | stopped next failed table shipped =>
      rw [next]
      exact List.mem_append_left _ hmem

/-- So does what is copied for the file that fails. -/
theorem Ends.copies {entries : List PlanEntry} {answer : Except StagingError (List String)}
    (ends : Ends host uploader replication entries done u answer t)
    (fit : ∀ entry ∈ entries, entry.source.Normal ∧ fits entry.source.name) :
    ∃ changes, Effects host changes u.world t.world ∧ CopiesFit fits changes := by
  cases ends with
  | completed all => exact ⟨[], .refl _, copiesFit_nil⟩
  | stopped next failed table shipped =>
      rw [next] at fit
      obtain ⟨normal, own⟩ := fit _ (List.mem_append_right _ List.mem_cons_self)
      exact registerSingle_copies normal own failed

/-- However a bulk registration ends, what it copies goes by the names of the sources in its
plan. -/
theorem registerMany_copies {answer : Except StagingError (List String)}
    (fit : ∀ plan world, (Plan.ofInputs host logicalRoot inputs).outcome s.world =
      (.ok plan, world) → ∀ entry ∈ plan.filter uploader.takes,
        entry.source.Normal ∧ fits entry.source.name)
    (run : (uploader.registerMany host inputs logicalRoot replication).outcome s = (answer, t)) :
    ∃ changes, Effects host changes s.world t.world ∧ CopiesFit fits changes := by
  rcases registerMany_cases run with
    ⟨error, world, -, rfl, looked, -⟩ |
      ⟨plan, world, done, u, planned, looked, registered, ends⟩
  · exact ⟨[], looked, copiesFit_nil⟩
  · have fit := fit plan world planned
    obtain ⟨changes, effects, hchanges⟩ := registered.copies fun one hone => fit _ (ends.mem hone)
    obtain ⟨more, later, hmore⟩ := ends.copies fit
    exact ⟨[] ++ (changes ++ more), looked.append (effects.append later), hchanges.append hmore⟩

end

/-! ## What a registration leaves behind -/

section

variable {s t u : Submission Disk}

/-- Registrations leave alone the records of all keys but their own. -/
theorem Registrations.get?_eq {s t : Submission σ}
    (run : Registrations host uploader replication s done t)
    (other : ∀ one ∈ done, one.1.destination ≠ key) :
    t.resources.get? key = s.resources.get? key := by
  induction run with
  | nil => rfl
  | cons first others ih =>
      obtain ⟨apart, rest⟩ := List.forall_mem_cons.1 other
      have registers := registerSingle_ok_iff.1 first
      rw [ih rest]
      dsimp only
      rw [registers.resources]
      split
      · next own =>
        rw [ResourceTable.get?_register, if_neg]
        rwa [registers.key_of_isPrivate own]
      · rfl

/-- A bulk registration on a disk, however it ends, ships artifacts and records keys whose names
are none of the bundle's; its classpath lists files of such names. -/
theorem registerMany_disk_spares {answer : Except StagingError (List String)}
    (named : ∀ library ∈ uploader.shared.entries, library.fileName = library.status.name)
    (made : DistBundlePattern.ofRule rule = .ok uploader.options.distPattern)
    (normal : ∀ input ∈ inputs, input.Normal) (wellNamed : s.world.files.tree.WellNamed)
    (run : (uploader.registerMany (Disk.host root) inputs logicalRoot replication).outcome s =
      (answer, t)) :
    (∃ shipped, t.shipment.descriptors = s.shipment.descriptors ++ shipped ∧
      ∀ descriptor ∈ shipped, uploader.Spares descriptor.path.name) ∧
    (∀ key, t.resources.get? key ≠ s.resources.get? key →
      uploader.Spares (Text.lastSegment key)) ∧
    ∀ classpath, answer = .ok classpath → ∃ entries, Classpath.IsLayout classpath entries ∧
      ∀ entry ∈ entries, uploader.Spares entry.fileName ∧
        t.resources.contains entry.destination = true := by
  rcases registerMany_cases run with
    ⟨error, world, rfl, rfl, -⟩ | ⟨plan, world, done, u, planned, -, registered, ends⟩
  · exact ⟨⟨[], by simp⟩, fun key changed => absurd rfl changed, nofun⟩
  have taken : ∀ one ∈ done, uploader.Spares one.1.fileName ∧ one.1.source.Normal ∧
      uploader.Spares one.1.source.name := by
    intro one hone
    obtain ⟨hentry, htakes⟩ := List.mem_filter.1 (ends.mem hone)
    obtain ⟨input, hinput, brings⟩ := (Plan.mem_ofInputs_disk planned).1 hentry
    have spared : uploader.Spares one.1.fileName := by simpa [takes, Spares] using htakes
    exact ⟨spared, brings.normal (normal input hinput),
      spares_source made (normal input hinput) wellNamed brings spared⟩
  obtain ⟨table, shipment⟩ := ends.kept
  refine ⟨⟨done.map fun one => one.2.descriptor, ?_, ?_⟩, ?_, ?_⟩
  · rw [shipment, registered.shipment]
  · intro descriptor hdescriptor
    obtain ⟨one, hone, rfl⟩ := List.mem_map.1 hdescriptor
    obtain ⟨-, normal, own⟩ := taken one hone
    obtain ⟨v, w, registers⟩ := registered.registers one hone
    rwa [name_of_registers named normal registers]
  · intro key changed
    by_contra accepted
    refine changed ?_
    rw [table]
    refine registered.get?_eq fun one hone hkey => accepted ?_
    rw [← hkey]
    exact (taken one hone).1
  · rintro classpath rfl
    cases ends with
    | completed all =>
        refine ⟨_, Classpath.isLayout_ofEntries _, fun entry hentry => ?_⟩
        obtain ⟨one, hone, own, rfl⟩ := mem_privateEntries.1 hentry
        exact ⟨(taken one hone).1, registered.contains.2 (.inr ⟨one, hone, own, rfl⟩)⟩

end

/-- A rehearsal without faults in front of a disk ends as the disk does. -/
theorem registerMany_follows {s t : Submission (Rehearsal Disk)}
    {answer : Except StagingError (List String)} (faultless : s.world.faults = [])
    (run : (uploader.registerMany (Rehearsal.host (Disk.host root)) inputs logicalRoot
      replication).outcome s = (answer, t)) :
    ∃ u, (uploader.registerMany (Disk.host root) inputs logicalRoot replication).outcome
        ⟨s.world.inner, s.resources, s.shipment⟩ = (answer, u) ∧
      t.resources = u.resources ∧ t.shipment = u.shipment := by
  have matched : Submission.Matches (Rehearsal.Follows (fun _ => True) s.world.notes) s
      ⟨s.world.inner, s.resources, s.shipment⟩ :=
    ⟨⟨rfl, faultless, [], rfl, by simp⟩, rfl, rfl⟩
  have same : ((uploader.registerMany (Rehearsal.host (Disk.host root)) inputs logicalRoot
      replication).outcome s).1 = _ ∧ _ :=
    registerMany_simulates replication matched fun _ _ _ _ _ _ _ _ _ => trivial
  rw [run] at same
  obtain ⟨answers, -, table, shipment⟩ := same
  exact ⟨_, Prod.ext answers.symm rfl, table, shipment⟩

/-- It plans what the disk plans. -/
theorem planned_of_rehearsal {rehearsal world : Rehearsal Disk}
    (faultless : rehearsal.faults = [])
    (planned : (Plan.ofInputs (Rehearsal.host (Disk.host root)) logicalRoot inputs).outcome
      rehearsal = (.ok plan, world)) :
    ∃ disk, (Plan.ofInputs (Disk.host root) logicalRoot inputs).outcome rehearsal.inner =
      (.ok plan, disk) := by
  have follows : Rehearsal.Follows (fun _ => True) rehearsal.notes rehearsal rehearsal.inner :=
    ⟨rfl, faultless, [], rfl, by simp⟩
  have same := (Plan.ofInputs_simulates root logicalRoot inputs _ _ follows).1
  rw [planned] at same
  exact ⟨_, Prod.ext same.symm rfl⟩

/-- **The distribution bundle is left alone.**  A bulk registration on a disk, whether it succeeds
or stops early, copies no file to a location with a name of the bundle, ships no artifact from one,
and changes no record of a key that ends in one.  When it succeeds, no archive on its classpath has
such a name; what else is there are directories, each with a file in it that was registered and is
no archive. -/
theorem registerMany_spares {τ : Type} {behind : Host τ} {home : Location}
    {roots : List Location} {applicationId : ApplicationId} {options : StagingOptions}
    {before after : τ} {s t : Submission (Rehearsal Disk)}
    {answer : Except StagingError (List String)}
    (made : DistBundlePattern.ofRule rule = .ok options.distPattern)
    (opened : (open? behind home roots applicationId options).outcome before =
      (.ok uploader, after))
    (normal : ∀ input ∈ inputs, input.Normal)
    (wellNamed : s.world.inner.files.tree.WellNamed) (faultless : s.world.faults = [])
    (run : (uploader.registerMany (Rehearsal.host (Disk.host root)) inputs logicalRoot
      replication).outcome s = (answer, t)) :
    (∃ changes, t.world.changes = s.world.changes ++ changes ∧
      ∀ source destination overwrite deleteSource,
        .copyFromLocal source destination overwrite deleteSource ∈ changes →
          options.distPattern.accepts destination.name = false) ∧
    (∃ shipped, t.shipment.descriptors = s.shipment.descriptors ++ shipped ∧
      ∀ descriptor ∈ shipped, options.distPattern.accepts descriptor.path.name = false) ∧
    (∀ key, t.resources.get? key ≠ s.resources.get? key →
      options.distPattern.accepts (Text.lastSegment key) = false) ∧
    ∀ classpath, answer = .ok classpath →
      ∃ directories archives, classpath = directories ++ archives ∧
        (∀ archive ∈ archives, isArchive archive = true ∧
          options.distPattern.accepts (Text.lastSegment archive) = false) ∧
        ∀ directory ∈ directories, ∃ entry : PlanEntry, entry.directory = directory ∧
          isArchive entry.destination = false ∧
          options.distPattern.accepts entry.fileName = false ∧
          t.resources.contains entry.destination = true := by
  have named : ∀ library ∈ uploader.shared.entries,
      library.fileName = library.status.name := by
    intro library hlibrary
    obtain ⟨_, -, _, _, _, -, -, hname⟩ := lists_of_open? opened library hlibrary
    exact hname
  obtain rfl : options = uploader.options := by rw [eq_of_open? opened]
  obtain ⟨u, onDisk, table, shipment⟩ := registerMany_follows faultless run
  obtain ⟨shipped, recorded, listed⟩ :=
    registerMany_disk_spares named made normal wellNamed onDisk
  rw [← table] at recorded listed
  rw [← shipment] at shipped
  refine ⟨?_, shipped, recorded, fun classpath answered => ?_⟩
  · have fit : ∀ plan world,
        (Plan.ofInputs (Rehearsal.host (Disk.host root)) logicalRoot inputs).outcome s.world =
          (.ok plan, world) → ∀ entry ∈ plan.filter uploader.takes,
            entry.source.Normal ∧ uploader.Spares entry.source.name := by
      intro plan world planned entry hentry
      obtain ⟨hmem, htakes⟩ := List.mem_filter.1 hentry
      obtain ⟨disk, planned⟩ := planned_of_rehearsal faultless planned
      obtain ⟨input, hinput, brings⟩ := (Plan.mem_ofInputs_disk planned).1 hmem
      exact ⟨brings.normal (normal input hinput), spares_source made (normal input hinput)
        wellNamed brings (by simpa [takes, Spares] using htakes)⟩
    obtain ⟨changes, effects, hchanges⟩ := registerMany_copies fit run
    exact ⟨changes, Rehearsal.changes_of_effects effects, hchanges⟩
  · obtain ⟨entries, ⟨directories, archives, rfl, hdirectories, harchives⟩, spared⟩ :=
      listed classpath answered
    refine ⟨directories, archives, rfl, fun archive harchive => ?_, fun directory hdirectory => ?_⟩
    · obtain ⟨entry, hentry, archived, rfl⟩ := (harchives.mem_iff archive).1 harchive
      exact ⟨archived, (spared entry hentry).1⟩
    · obtain ⟨entry, hentry, plain, rfl⟩ := (hdirectories.mem_iff directory).1 hdirectory
      exact ⟨entry, rfl, plain, spared entry hentry⟩

end Uploader

namespace Sample

open Uploader

/-- A directory with a name of the bundle, in it a bundle and another file. -/
def bundled : Disk :=
  ⟨⟨treeOf [(["d.jar"], directory), (["d.jar", "a"], file [65]), (["d.jar", "d-1.jar"], file [66])],
    [], 7, 1⟩, []⟩

/-- The bundle starts with `d` and ends in `jar`. -/
def bundling : StagingOptions :=
  ⟨"n", ⟨1, 0⟩, ⟨⟨"d", "jar"⟩, [.literal 'd', .anyBytes],
    [.anyBytes, .literal 'j', .literal 'a', .literal 'r']⟩⟩

/-- The uploader of the application with these settings, without shared libraries. -/
def bundler : Uploader :=
  ⟨here "h", applicationId, applicationDirectory (here "h") "n" applicationId, .empty, bundling⟩

/-- The bulk registration of the directory, written down. -/
def bundleRun : Except StagingError (List String) × Submission (Rehearsal Disk) :=
  (bundler.registerMany (Rehearsal.host (Disk.host "r")) [here "d.jar"] "l" 1).outcome
    (.start (.start bundled [] []))

theorem ofRule_bundling : DistBundlePattern.ofRule ⟨"d", "jar"⟩ = .ok bundling.distPattern := rfl

theorem bundler_of_open? :
    ∃ after, (open? (Disk.host "r") (here "h") [] applicationId bundling).outcome bundled =
      (.ok bundler, after) := by
  have opened : ((open? (Disk.host "r") (here "h") [] applicationId bundling).outcome
      bundled).1.toOption.map Uploader.shared = some .empty := by decide
  obtain ⟨uploader, hopened, hshared⟩ := Option.map_eq_some_iff.1 opened
  have answered := Run.outcome_eq_of_toOption hopened
  have heq := eq_of_open? answered
  rw [hshared] at heq
  exact ⟨_, answered.trans (by rw [heq]; rfl)⟩

theorem bundleRun_eq : bundleRun = (.ok ["l/d.jar"], bundleRun.2) :=
  Run.outcome_eq_of_toOption (by decide +kernel)

theorem wellNamed_bundled : bundled.files.tree.WellNamed :=
  FileTree.wellNamed_iff.2 (by decide)

/-- Of the two files only the one that is no bundle is copied and shipped. -/
theorem registerMany_spares_sample :
    bundling.distPattern.accepts "d-1.jar" = true ∧
      bundleRun.2.shipment.descriptors.map ArtifactDescriptor.key = ["l/d.jar/a"] ∧
      (∃ changes, bundleRun.2.world.changes = changes ∧
        ∀ source destination overwrite deleteSource,
          .copyFromLocal source destination overwrite deleteSource ∈ changes →
            bundling.distPattern.accepts destination.name = false) ∧
      ∃ directories archives, ["l/d.jar"] = directories ++ archives ∧
        (∀ archive ∈ archives, isArchive archive = true ∧
          bundling.distPattern.accepts (Text.lastSegment archive) = false) ∧
        ∀ directory ∈ directories, ∃ entry : PlanEntry, entry.directory = directory ∧
          isArchive entry.destination = false ∧
          bundling.distPattern.accepts entry.fileName = false ∧
          bundleRun.2.resources.contains entry.destination = true := by
  obtain ⟨after, opened⟩ := bundler_of_open?
  have normal : ∀ input ∈ [here "d.jar"], input.Normal := by
    intro input hinput
    obtain rfl := List.mem_singleton.1 hinput
    have read : Location.parse? "d.jar" = some (here "d.jar") := by decide
    exact Location.normal_of_parse? read
  obtain ⟨copies, -, -, listed⟩ :=
    registerMany_spares ofRule_bundling opened normal wellNamed_bundled rfl bundleRun_eq
  exact ⟨by decide +kernel, by decide +kernel, copies, listed _ rfl⟩

/-- A directory with a name of the bundle is on the classpath, and looks like an archive there. -/
theorem registerMany_lists_directory :
    ¬ ∀ (rule : DistBundleRule) (options : StagingOptions) (root logicalRoot : String)
      (home : Location) (roots : List Location) (applicationId : ApplicationId)
      (before after : Disk) (uploader : Uploader) (inputs : List Location) (replication : UInt16)
      (s t : Submission (Rehearsal Disk)) (classpath : List String),
      DistBundlePattern.ofRule rule = .ok options.distPattern →
      (open? (Disk.host root) home roots applicationId options).outcome before =
        (.ok uploader, after) →
      (∀ input ∈ inputs, ∃ raw, Location.parse? raw = some input) →
      s.world.inner.files.tree.WellNamed → s.world.faults = [] →
      (uploader.registerMany (Rehearsal.host (Disk.host root)) inputs logicalRoot
        replication).outcome s = (.ok classpath, t) →
      ∀ line ∈ classpath, isArchive line = true →
        options.distPattern.accepts (Text.lastSegment line) = false := by
  intro claim
  obtain ⟨after, opened⟩ := bundler_of_open?
  have read : ∀ input ∈ [here "d.jar"], ∃ raw, Location.parse? raw = some input := by
    intro input hinput
    obtain rfl := List.mem_singleton.1 hinput
    exact ⟨"d.jar", by decide⟩
  have spared := claim _ _ _ _ _ _ _ _ _ _ _ _ _ _ _ ofRule_bundling opened read
    wellNamed_bundled rfl bundleRun_eq "l/d.jar" (by simp) (by decide)
  have accepted : bundling.distPattern.accepts (Text.lastSegment "l/d.jar") = true := by
    decide
  rw [accepted] at spared
  cases spared

end Sample

end ArtifactStaging
