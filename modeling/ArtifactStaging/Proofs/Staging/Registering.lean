/-
# ArtifactStaging.Proofs.Staging.Registering -- what a registration does

`Registers` is the successful registration of one artifact, one constructor for
each of the three ways in which it can go; `registerSingle_ok_iff` says that it is
exactly what `registerSingle` does.  `Registrations` is a run of registrations, each
shipped before the next, and `registerPlan_ok_iff` and `registerMany_ok_iff` say
that bulk registration is such a run over the files of its plan that are no
distribution bundle.

What a step does to the table and to the shipment, and whether it is private, is
read off the constructors here, so the properties of whole submissions are
inductions over `Registrations` that open no operation again.
-/
import ArtifactStaging.Proofs.Staging.Libraries
import ArtifactStaging.Storage.Disk

set_option autoImplicit false

namespace ArtifactStaging

/-! ## Libraries that are found -/

namespace SharedLibraryIndex

variable {σ : Type} {storage : Storage σ} {roots : List Location} {s t : σ}

/-- The entry is a file that was listed beneath a root, under the file's own name. -/
def Lists (storage : Storage σ) (location : Location) (entry : SharedEntry) : Prop :=
  ∃ files before after, (storage.listFiles location).outcome before = (.ok files, after) ∧
    entry.status ∈ files ∧ entry.fileName = entry.status.name

theorem lists_of_scanRoot {location : Location} {found : List SharedEntry} {rootIndex : Nat}
    (h : (scanRoot storage rootIndex location).outcome s = (.ok found, t)) :
    ∀ entry ∈ found, Lists storage location entry := by
  obtain ⟨present, _, -, h⟩ := Run.bind_ok_iff.1 h
  split at h
  · cases h
    simp
  obtain ⟨directory, _, -, h⟩ := Run.bind_ok_iff.1 h
  split at h
  · cases h
    simp
  obtain ⟨files, _, listed, h⟩ := Run.bind_ok_iff.1 h
  cases h
  intro entry hentry
  obtain ⟨status, hstatus, rfl⟩ := List.mem_map.1 hentry
  exact ⟨files, _, _, listed, hstatus, rfl⟩

theorem lists_of_scanFrom {found : List SharedEntry} {rootIndex : Nat}
    (h : (scanFrom storage rootIndex roots).outcome s = (.ok found, t)) :
    ∀ entry ∈ found, ∃ location ∈ roots, Lists storage location entry := by
  induction roots generalizing rootIndex found s with
  | nil =>
      cases h
      simp
  | cons location roots ih =>
      simp only [scanFrom, Run.bind_ok_iff, Run.pure_ok_iff] at h
      obtain ⟨first, _, hfirst, others, _, hothers, rfl, rfl⟩ := h
      intro entry hentry
      rcases List.mem_append.1 hentry with hentry | hentry
      · exact ⟨location, List.mem_cons_self, lists_of_scanRoot hfirst entry hentry⟩
      · obtain ⟨other, hother, listed⟩ := ih hothers entry hentry
        exact ⟨other, List.mem_cons_of_mem _ hother, listed⟩

/-- Every library of an index was listed beneath one of the roots. -/
theorem lists_of_build {index : SharedLibraryIndex}
    (h : (build storage roots).outcome s = (.ok index, t)) :
    ∀ entry ∈ index.entries, ∃ location ∈ roots, Lists storage location entry := by
  simp only [build, Run.bind_ok_iff, Run.mapError_ok_iff, Run.ofExcept_ok_iff] at h
  obtain ⟨found, _, hfound, hindex, -⟩ := h
  rw [entries_of_indexOf hindex]
  exact lists_of_scanFrom hfound

end SharedLibraryIndex

namespace Uploader

open Submission

variable {σ : Type}

/-! ## Opening -/

/-- An uploader has what it was opened with, the libraries that were found apart. -/
theorem eq_of_open? {host : Host σ} {home : Location} {roots : List Location}
    {applicationId : ApplicationId} {options : StagingOptions} {uploader : Uploader} {s t : σ}
    (h : (open? host home roots applicationId options).outcome s = (.ok uploader, t)) :
    uploader = ⟨home, applicationId,
      ArtifactStaging.applicationDirectory home options.space applicationId, uploader.shared,
      options⟩ := by
  simp only [open?, Run.bind_ok_iff, Run.pure_ok_iff] at h
  obtain ⟨_, _, -, found, _, -, rfl, -⟩ := h
  rfl

/-- The libraries of an uploader were listed beneath the roots it was opened with. -/
theorem lists_of_open? {host : Host σ} {home : Location} {roots : List Location}
    {applicationId : ApplicationId} {options : StagingOptions} {uploader : Uploader} {s t : σ}
    (h : (open? host home roots applicationId options).outcome s = (.ok uploader, t)) :
    ∀ entry ∈ uploader.shared.entries, ∃ location ∈ roots,
      SharedLibraryIndex.Lists host.storage location entry := by
  simp only [open?, Run.bind_ok_iff, Run.pure_ok_iff, Run.mapError_ok_iff] at h
  obtain ⟨_, _, -, shared, _, hshared, rfl, -⟩ := h
  exact SharedLibraryIndex.lists_of_build hshared

/-! ## The shared libraries -/

theorem get?_foldl_register {entries : List SharedEntry} (table : ResourceTable) (key : String)
    (distinct : (entries.map SharedEntry.fileName).Nodup) :
    (entries.foldl (fun table entry =>
      (table.register entry.fileName (sharedResource entry)).2) table).get? key =
      ((entries.find? (·.fileName == key)).map sharedResource).or (table.get? key) := by
  induction entries generalizing table with
  | nil => simp
  | cons first rest ih =>
      rw [List.map_cons, List.nodup_cons] at distinct
      rw [List.foldl_cons, ih _ distinct.2, ResourceTable.get?_register]
      by_cases hfirst : first.fileName = key
      · have hrest : rest.find? (·.fileName == key) = none := by
          rw [List.find?_eq_none]
          intro entry hentry heq
          exact distinct.1 (List.mem_map.2 ⟨entry, hentry, (by simpa using heq) ▸ hfirst.symm⟩)
        simp [hfirst, hrest]
      · rw [List.find?_cons_of_neg (by simpa using hfirst), if_neg hfirst]

/-- Every shared library is registered under its name, and any other key keeps its record. -/
theorem get?_withProvided {uploader : Uploader} (table : ResourceTable) (key : String) :
    (uploader.withProvided table).get? key =
      ((uploader.shared.get? key).map sharedResource).or (table.get? key) := by
  rw [SharedLibraryIndex.get?_eq_find?]
  exact get?_foldl_register table key uploader.shared.distinct

/-! ## One artifact -/

/-- The successful registration of one artifact in a submission. -/
inductive Registers (host : Host σ) (uploader : Uploader) (key : String) (source : Location)
    (directory : String) (replication : UInt16) (s : Submission σ) :
    Registration → Submission σ → Prop
  /-- A remote artifact is looked at and recorded where it is. -/
  | alreadyRemote {status : FileStatus} {world : σ} (remote : source.localPath? = none)
      (found : (host.storage.stat source).outcome s.world = (.ok status, world)) :
      Registers host uploader key source directory replication s
        (.alreadyRemote (.ofStatus key status .application))
        ⟨world, (s.resources.register key
          (ArtifactDescriptor.ofStatus key status .application).toLocalResource).2, s.shipment⟩
  /-- The shared library of its name stands in for a local artifact, and nothing changes. -/
  | reusedShared {path : String} {entry : SharedEntry} (here : source.localPath? = some path)
      (shadow : uploader.shared.get? source.name = some entry) :
      Registers host uploader key source directory replication s
        (.reusedShared (.ofStatus entry.fileName entry.status .shared)) s
  /-- Anything else but a directory is copied and recorded. -/
  | uploaded {path fileName : String} {found : Entry} {time : Int64} {world : σ}
      (here : source.localPath? = some path) (free : uploader.shared.get? source.name = none)
      (seen : (host.files s.world).entry path = .ok found) (other : found.isDirectory = false)
      (named : PathText.fileName? path = some fileName)
      (copied : (uploader.upload host path found.modified
        (uploader.destinationOf directory fileName) replication).outcome s.world =
          (.ok time, world)) :
      Registers host uploader key source directory replication s
        (.uploaded ⟨key, uploader.destinationOf directory fileName, UInt64.ofNat found.size,
          time, .application⟩)
        ⟨world, (s.resources.register key ⟨uploader.destinationOf directory fileName,
          UInt64.ofNat found.size, time, .application⟩).2, s.shipment⟩

variable {host : Host σ} {uploader : Uploader} {key : String} {source : Location}
  {directory : String} {replication : UInt16} {s t : Submission σ} {registration : Registration}

theorem registerFile_ok_iff {path : String} {size : UInt64} {modified : Int64} :
    (uploader.registerFile host key path directory size modified replication).outcome s =
      (.ok registration, t) ↔
    ∃ fileName time world, PathText.fileName? path = some fileName ∧
      (uploader.upload host path modified (uploader.destinationOf directory fileName)
        replication).outcome s.world = (.ok time, world) ∧
      registration = .uploaded ⟨key, uploader.destinationOf directory fileName, size, time,
        .application⟩ ∧
      t = ⟨world, (s.resources.register key ⟨uploader.destinationOf directory fileName, size,
        time, .application⟩).2, s.shipment⟩ := by
  unfold registerFile
  split
  · next named => simp [named, Run.outcome_throw]
  · next fileName named =>
    simp only [Run.bind_ok_iff, onWorld_ok_iff, outcome_register, Run.pure_ok_iff]
    constructor
    · rintro ⟨time, _, ⟨world, copied, rfl⟩, _, _, heq, rfl, rfl⟩
      cases heq
      exact ⟨fileName, time, world, named, copied, rfl, rfl⟩
    · rintro ⟨other, time, world, heq, copied, rfl, rfl⟩
      cases named.symm.trans heq
      exact ⟨time, _, ⟨world, copied, rfl⟩, _, _, rfl, rfl, rfl⟩

theorem registerLocal_ok_iff {path : String} :
    (uploader.registerLocal host key path directory replication).outcome s =
      (.ok registration, t) ↔
    ∃ found, (host.files s.world).entry path = .ok found ∧ found.isDirectory = false ∧
      (uploader.registerFile host key path directory (UInt64.ofNat found.size) found.modified
        replication).outcome s = (.ok registration, t) := by
  simp only [registerLocal, Run.outcome_bind, Run.outcome_view]
  cases hentry : (host.files s.world).entry path with
  | error cause => simp [Run.outcome_throw]
  | ok found =>
      cases directory : found.isDirectory <;> simp [directory, Run.outcome_throw]

/-- `Registers` is what `registerSingle` does when it succeeds. -/
theorem registerSingle_ok_iff :
    (uploader.registerSingle host key source directory replication).outcome s =
      (.ok registration, t) ↔
    Registers host uploader key source directory replication s registration t := by
  unfold registerSingle
  constructor
  · intro h
    split at h
    · next remote =>
      simp only [Run.bind_ok_iff, onWorld_ok_iff, outcome_register, Run.pure_ok_iff] at h
      obtain ⟨status, _, ⟨world, found, rfl⟩, _, _, heq, rfl, rfl⟩ := h
      cases heq
      exact .alreadyRemote remote found
    · next path here =>
      split at h
      · next entry shadow =>
        rw [Run.pure_ok_iff] at h
        obtain ⟨rfl, rfl⟩ := h
        exact .reusedShared here shadow
      · next free =>
        rw [registerLocal_ok_iff] at h
        obtain ⟨found, seen, other, h⟩ := h
        rw [registerFile_ok_iff] at h
        obtain ⟨fileName, time, world, named, copied, rfl, rfl⟩ := h
        exact .uploaded here free seen other named copied
  · intro h
    cases h with
    | alreadyRemote remote found =>
        simp only [remote, Run.bind_ok_iff, onWorld_ok_iff, outcome_register, Run.pure_ok_iff]
        exact ⟨_, _, ⟨_, found, rfl⟩, _, _, rfl, rfl, rfl⟩
    | reusedShared here shadow => simp only [here, shadow, Run.outcome_pure]
    | uploaded here free seen other named copied =>
        simp only [here, free]
        exact registerLocal_ok_iff.2 ⟨_, seen, other,
          registerFile_ok_iff.2 ⟨_, _, _, named, copied, rfl, rfl⟩⟩

namespace Registers

/-- A private registration records its artifact under its key; a shared one records nothing. -/
theorem resources (h : Registers host uploader key source directory replication s registration t) :
    t.resources =
      if registration.isPrivate then
        (s.resources.register registration.descriptor.key
          registration.descriptor.toLocalResource).2
      else s.resources := by
  cases h <;> rfl

theorem shipment (h : Registers host uploader key source directory replication s registration t) :
    t.shipment = s.shipment := by
  cases h <;> rfl

/-- A private artifact goes to the key that it was registered under. -/
theorem key_of_isPrivate
    (h : Registers host uploader key source directory replication s registration t)
    (own : registration.isPrivate = true) : registration.descriptor.key = key := by
  cases h with
  | alreadyRemote remote found => rfl
  | reusedShared here shadow => cases own
  | uploaded here free seen other named copied => rfl

/-- Only the library that stands in for an artifact is open to other applications. -/
theorem visibility
    (h : Registers host uploader key source directory replication s registration t) :
    registration.descriptor.visibility =
      if registration.isPrivate then .application else .shared := by
  cases h <;> rfl

/-- What is not private is a shared library, as the index has it. -/
theorem of_shared (h : Registers host uploader key source directory replication s registration t)
    (shared : registration.isPrivate = false) :
    ∃ entry ∈ uploader.shared.entries,
      registration.descriptor = .ofStatus entry.fileName entry.status .shared := by
  cases h with
  | alreadyRemote remote found => cases shared
  | reusedShared here shadow => exact ⟨_, (SharedLibraryIndex.get?_eq_some.1 shadow).1, rfl⟩
  | uploaded here free seen other named copied => cases shared

end Registers

/-! ## Shadows -/

/-- Whether a shared library stands in for an artifact: it is local and has the library's name. -/
def shadows (uploader : Uploader) (source : Location) : Bool :=
  !source.isRemote && uploader.shared.contains source.name

/-- Which registrations are private does not depend on the state. -/
theorem Registers.isPrivate_eq
    (h : Registers host uploader key source directory replication s registration t) :
    registration.isPrivate = !uploader.shadows source := by
  cases h with
  | alreadyRemote remote found =>
      simp [Registration.isPrivate, shadows, Location.localPath?_eq_none.1 remote]
  | reusedShared here shadow =>
      simp [Registration.isPrivate, shadows, (Location.localPath?_eq_some.1 here).1,
        SharedLibraryIndex.contains_eq, shadow]
  | uploaded here free seen other named copied =>
      simp [Registration.isPrivate, shadows, SharedLibraryIndex.contains_eq, free]

/-! ## A plan -/

/-- Whether bulk registration takes a file: the distribution bundle is left out. -/
def takes (uploader : Uploader) (entry : PlanEntry) : Bool :=
  !uploader.options.distPattern.accepts entry.fileName

/-- Successful registrations one after the other, each shipped before the next. -/
inductive Registrations (host : Host σ) (uploader : Uploader) (replication : UInt16) :
    Submission σ → List (PlanEntry × Registration) → Submission σ → Prop
  | nil (s : Submission σ) : Registrations host uploader replication s [] s
  | cons {s t u : Submission σ} {entry : PlanEntry} {registration : Registration}
      {rest : List (PlanEntry × Registration)}
      (first : (uploader.registerSingle host entry.destination entry.source entry.directory
        replication).outcome s = (.ok registration, t))
      (others : Registrations host uploader replication
        { t with shipment := t.shipment.push registration.descriptor } rest u) :
      Registrations host uploader replication s ((entry, registration) :: rest) u

/-- The files of some registrations that are private to the application. -/
def privateEntries (done : List (PlanEntry × Registration)) : List PlanEntry :=
  (done.filter fun (_, registration) => registration.isPrivate).map Prod.fst

/-- Registering a plan registers its files in order and lists the private ones. -/
theorem registerPlan_ok_iff {classpath result : Classpath} {plan : List PlanEntry} :
    (uploader.registerPlan host replication classpath plan).outcome s = (.ok result, t) ↔
      ∃ done, Registrations host uploader replication s done t ∧
        done.map Prod.fst = plan.filter uploader.takes ∧
        result = (privateEntries done).foldl Classpath.add classpath := by
  induction plan generalizing s classpath with
  | nil =>
      rw [registerPlan, Run.pure_ok_iff]
      constructor
      · rintro ⟨rfl, rfl⟩
        exact ⟨[], .nil _, rfl, rfl⟩
      · rintro ⟨done, run, hdone, rfl⟩
        obtain rfl := List.map_eq_nil_iff.1 hdone
        cases run
        exact ⟨rfl, rfl⟩
  | cons entry rest ih =>
      rw [registerPlan]
      by_cases hbundle : uploader.options.distPattern.accepts entry.fileName = true
      · have htakes : ¬ uploader.takes entry = true := by simpa [takes] using hbundle
        rw [if_pos hbundle, ih, List.filter_cons_of_neg htakes]
      · have htakes : uploader.takes entry = true := by simpa [takes] using hbundle
        rw [if_neg hbundle, List.filter_cons_of_pos htakes]
        simp only [Run.bind_ok_iff, outcome_ship, ih]
        constructor
        · rintro ⟨registration, u, first, _, _, heq, done, run, hdone, rfl⟩
          cases heq
          refine ⟨(entry, registration) :: done, .cons first run, by simp [hdone], ?_⟩
          simp only [privateEntries, List.filter_cons]
          split <;> rfl
        · rintro ⟨done, run, hdone, rfl⟩
          cases run with
          | nil => simp at hdone
          | cons first others =>
              obtain ⟨rfl, hrest⟩ := List.cons.inj hdone
              refine ⟨_, _, first, _, _, rfl, _, others, hrest, ?_⟩
              simp only [privateEntries, List.filter_cons]
              split <;> rfl

/-- Registering a plan fails where one of its files does, with those before it registered. -/
theorem registerPlan_error_iff {classpath : Classpath} {plan : List PlanEntry}
    {error : StagingError} :
    (uploader.registerPlan host replication classpath plan).outcome s = (.error error, t) ↔
      ∃ done u entry rest, Registrations host uploader replication s done u ∧
        plan.filter uploader.takes = done.map Prod.fst ++ entry :: rest ∧
        (uploader.registerSingle host entry.destination entry.source entry.directory
          replication).outcome u = (.error error, t) := by
  induction plan generalizing s classpath with
  | nil => simp [registerPlan]
  | cons entry rest ih =>
      rw [registerPlan]
      by_cases hbundle : uploader.options.distPattern.accepts entry.fileName = true
      · have htakes : ¬ uploader.takes entry = true := by simpa [takes] using hbundle
        rw [if_pos hbundle, ih, List.filter_cons_of_neg htakes]
      · have htakes : uploader.takes entry = true := by simpa [takes] using hbundle
        rw [if_neg hbundle, List.filter_cons_of_pos htakes]
        simp only [Run.bind_error_iff, outcome_ship, ih]
        constructor
        · rintro (failed | ⟨registration, u, first, failed | ⟨_, _, heq, later⟩⟩)
          · exact ⟨[], s, entry, _, .nil s, rfl, failed⟩
          · cases failed
          · cases heq
            obtain ⟨done, v, next, others, run, hdone, failed⟩ := later
            exact ⟨(entry, registration) :: done, v, next, others, .cons first run,
              by simp [hdone], failed⟩
        · rintro ⟨done, v, next, others, run, hdone, failed⟩
          cases run with
          | nil =>
              obtain ⟨rfl, -⟩ := List.cons.inj hdone
              exact .inl failed
          | cons first later =>
              obtain ⟨rfl, hrest⟩ := List.cons.inj hdone
              exact .inr ⟨_, _, first, .inr ⟨_, _, rfl, _, v, next, others, later, hrest, failed⟩⟩

theorem checkArguments_ok_iff {logicalRoot : String} :
    checkArguments logicalRoot replication = .ok () ↔
      replication ≠ 0 ∧ Text.trimSlashes logicalRoot ≠ "" := by
  simp [checkArguments, Except.error_ite_ok_iff]

/-- Bulk registration checks its arguments, plans, registers the plan and answers the classpath
of what is private. -/
theorem registerMany_ok_iff {inputs : List Location} {logicalRoot : String}
    {classpath : List String} :
    (uploader.registerMany host inputs logicalRoot replication).outcome s =
      (.ok classpath, t) ↔
    checkArguments logicalRoot replication = .ok () ∧
      ∃ plan world done,
        (Plan.ofInputs host logicalRoot inputs).outcome s.world = (.ok plan, world) ∧
        Registrations host uploader replication { s with world } done t ∧
        done.map Prod.fst = plan.filter uploader.takes ∧
        classpath = Classpath.ofEntries (privateEntries done) := by
  simp only [registerMany, Run.bind_ok_iff, Run.ofExcept_ok_iff, onWorld_ok_iff,
    registerPlan_ok_iff, Run.pure_ok_iff, Except.mapError_ok_iff]
  constructor
  · rintro ⟨_, _, ⟨checked, rfl⟩, plan, _, ⟨world, planned, rfl⟩, _, _,
      ⟨done, run, hdone, rfl⟩, rfl, rfl⟩
    exact ⟨checked, plan, world, done, planned, run, hdone, rfl⟩
  · rintro ⟨checked, plan, world, done, planned, run, hdone, rfl⟩
    exact ⟨(), s, ⟨checked, rfl⟩, plan, _, ⟨world, planned, rfl⟩, _, _, ⟨done, run, hdone, rfl⟩,
      rfl, rfl⟩

/-- The private files of a run are those that no shared library stands in for. -/
theorem Registrations.privateEntries_eq {done : List (PlanEntry × Registration)}
    (run : Registrations host uploader replication s done t) :
    privateEntries done =
      (done.map Prod.fst).filter fun entry => !uploader.shadows entry.source := by
  induction run with
  | nil => rfl
  | cons first others ih =>
      have hprivate := (registerSingle_ok_iff.1 first).isPrivate_eq
      simp only [privateEntries, List.filter_cons, hprivate, List.map_cons] at ih ⊢
      split
      · rw [List.map_cons, ih]
      · exact ih

/-- Every file of a run was registered under its destination. -/
theorem Registrations.registers {done : List (PlanEntry × Registration)}
    (run : Registrations host uploader replication s done t) :
    ∀ one ∈ done, ∃ u v, Registers host uploader one.1.destination one.1.source one.1.directory
      replication u one.2 v := by
  induction run with
  | nil => simp
  | cons first others ih =>
      exact List.forall_mem_cons.2 ⟨⟨_, _, registerSingle_ok_iff.1 first⟩, ih⟩

/-- A run ships what it registered, in order. -/
theorem Registrations.shipment {done : List (PlanEntry × Registration)}
    (run : Registrations host uploader replication s done t) :
    t.shipment.descriptors = s.shipment.descriptors ++ done.map fun one => one.2.descriptor := by
  induction run with
  | nil => simp
  | cons first others ih =>
      rw [ih, Shipment.push, (registerSingle_ok_iff.1 first).shipment]
      simp

/-- A run adds where everything is that it ships, in the same order. -/
theorem Registrations.remotePaths {done : List (PlanEntry × Registration)}
    (run : Registrations host uploader replication s done t) :
    t.shipment.remotePaths =
      s.shipment.remotePaths ++ done.map fun one => one.2.descriptor.path := by
  induction run with
  | nil => simp
  | cons first others ih =>
      rw [ih, Shipment.push, (registerSingle_ok_iff.1 first).shipment]
      simp

end Uploader

/-! ## A small machine

Closed runs are evaluated on this machine: two local directories, one of them with an archive, the
distribution bundle and the shadow of a shared library in it, one remote file and one shared
library. -/

namespace Sample

/-- A file of some bytes. -/
def file (bytes : List UInt8) : Entry := .file 0 ⟨bytes, 0⟩ ⟨5, Entry.newFileMode⟩

/-- A directory. -/
def directory : Entry := .directory ⟨5, Entry.newDirectoryMode⟩

/-- The entry with a number of its own, if it is a file. -/
def numbered (number : Nat) : Entry → Entry
  | .file _ content attributes => .file number content attributes
  | entry => entry

/-- A tree of some entries, those above an entry before it. -/
def treeOf (entries : List (Place × Entry)) : FileTree :=
  entries.foldl (fun tree (place, entry) => tree.put place (numbered tree.freshNumber entry))
    (.bare ⟨5, Entry.newDirectoryMode⟩)

/-- The local and the remote files of the machine. -/
def tree : FileTree := treeOf
  [(["x"], directory), (["x", "a"], file [65]), (["x", "b.jar"], file [66]),
    (["x", "d.q"], file []), (["x", "s"], file [1]), (["y"], directory),
    (["y", "a"], file [66, 67]), (["r"], directory), (["r", "h"], directory),
    (["r", "h", "_"], directory), (["r", "h", "_", "c"], file [9]),
    (["r", "h", "_", "l"], directory), (["r", "h", "_", "l", "s"], file [2])]

/-- The disk before anything happens. -/
def disk : Disk := ⟨⟨tree, [], 7, 1⟩, []⟩

/-- The remote files lie beneath the directory `r`. -/
def host : Host Disk := Disk.host "r"

/-- A plain path as a location. -/
def here (path : String) : Location := ⟨none, "", path⟩

/-- A remote location. -/
def there (path : String) : Location := ⟨some "h", "", path⟩

/-- The distribution bundle is whatever ends in `q`. -/
def options : StagingOptions :=
  ⟨"n", ⟨1, 0⟩, ⟨⟨"", "q"⟩, [.anyBytes], [.anyBytes, .literal 'q']⟩⟩

/-- One shared library, `s`. -/
def shared : SharedLibraryIndex :=
  (SharedLibraryIndex.Pass.start.add ⟨"s", ⟨there "/l/s", 1, 5, false⟩, 0⟩).toSharedLibraryIndex

/-- The identifier of the application. -/
def applicationId : ApplicationId := ⟨"i", by decide +kernel⟩

/-- The uploader of the application, with its directory in a home directory. -/
def uploader (home : Location) : Uploader :=
  ⟨home, applicationId, applicationDirectory home "n" applicationId, shared, options⟩

/-- The application is opened on the machine. -/
def openAt (home : Location) : Except StagingError Uploader × Disk :=
  (Uploader.open? host home [there "/l"] applicationId options).outcome disk

/-- The uploader is what opening answers, when the library is found. -/
theorem openAt_eq {home : Location}
    (found : (openAt home).1.toOption.map Uploader.shared = some shared) :
    openAt home = (.ok (uploader home), (openAt home).2) := by
  obtain ⟨opened, hopened, hshared⟩ := Option.map_eq_some_iff.1 found
  have answered := Run.outcome_eq_of_toOption hopened
  have heq := Uploader.eq_of_open? answered
  rw [hshared] at heq
  exact answered.trans (by rw [heq]; rfl)

theorem library_found : (openAt (here "h")).1.toOption.map Uploader.shared = some shared := by
  decide +kernel

/-- The submission right after opening. -/
def start (home : Location) : Submission Disk := .start (openAt home).2

/-- A bulk registration of some inputs beneath `l`. -/
def registering (home : Location) (inputs : List Location) (s : Submission Disk) :
    Except StagingError (List String) × Submission Disk :=
  ((uploader home).registerMany host inputs "l" 1).outcome s

theorem registering_eq {home : Location} {inputs : List Location} {s : Submission Disk}
    {classpath : List String} (h : (registering home inputs s).1.toOption = some classpath) :
    ((uploader home).registerMany (Disk.host "r") inputs "l" 1).outcome s =
      (.ok classpath, (registering home inputs s).2) :=
  Run.outcome_eq_of_toOption h

/-- A directory, a remote file and a local file. -/
def inputs : List Location := [here "x", there "/c", here "y/a"]

end Sample

end ArtifactStaging
