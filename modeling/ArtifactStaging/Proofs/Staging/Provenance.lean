/-
# ArtifactStaging.Proofs.Staging.Provenance -- where the records of a table come from

A record open to every application is a shared library under its own name.  A
record of one application is a remote artifact that was registered where it is, or
lies in the application's directory.  This is `Provenance`, relative to the locations
registered so far.

Calls on an uploader come in any order, may fail at any point, and the world may change
between them.  A registration that succeeds keeps `Provenance` (`Provenance.register`), one
that fails changes nothing but the world (`world_of_registerSingle_error`), and bulk
registration is a run of the first kind up to where it stops (`reaches_of_registerMany`).  So it
holds after any calls (`provenance_afterCalls`).
-/
import ArtifactStaging.Proofs.Location.ApplicationDirectory
import ArtifactStaging.Proofs.Staging.Registering

set_option autoImplicit false

namespace ArtifactStaging

/-- A disk answers about a location under that location. -/
theorem Disk.path_of_stat {root : String} {source : Location} {status : FileStatus}
    {disk disk' : Disk}
    (h : ((Disk.host root).storage.stat source).outcome disk = (.ok status, disk')) :
    status.path = source := by
  obtain ⟨hstat, -⟩ := Prod.mk.inj h
  obtain ⟨entry, -, hstatus⟩ := Except.bind_ok_iff.1 hstat
  cases hstatus
  cases entry <;> rfl

namespace Uploader

open Submission

variable {σ : Type} {host : Host σ} {uploader : Uploader} {key directory logicalRoot : String}
  {source : Location} {replication : UInt16} {s t : Submission σ} {e : StagingError}

/-! ## Registrations that fail -/

theorem world_of_registerFile_error {path : String} {size : UInt64} {modified : Int64}
    (h : (uploader.registerFile host key path directory size modified replication).outcome s =
      (.error e, t)) : ∃ world, t = { s with world } := by
  unfold registerFile at h
  split at h
  · cases h
    exact ⟨s.world, rfl⟩
  · simp only [Run.bind_error_iff, onWorld_error_iff, outcome_register, Run.outcome_pure,
      Prod.mk.injEq, reduceCtorEq, false_and, and_false, exists_false, or_false] at h
    obtain ⟨_, world, -, -, rfl⟩ := h
    exact ⟨world, rfl⟩

theorem world_of_registerLocal_error {path : String}
    (h : (uploader.registerLocal host key path directory replication).outcome s =
      (.error e, t)) : ∃ world, t = { s with world } := by
  simp only [registerLocal, Run.outcome_bind, Run.outcome_view] at h
  split at h
  · cases h
    exact ⟨s.world, rfl⟩
  · split at h
    · cases h
      exact ⟨s.world, rfl⟩
    · exact world_of_registerFile_error h

/-- A registration that fails changes nothing but the world. -/
theorem world_of_registerSingle_error
    (h : (uploader.registerSingle host key source directory replication).outcome s =
      (.error e, t)) : ∃ world, t = { s with world } := by
  unfold registerSingle at h
  split at h
  · simp only [Run.bind_error_iff, onWorld_error_iff, outcome_register, Run.outcome_pure,
      Prod.mk.injEq, reduceCtorEq, false_and, and_false, exists_false, or_false] at h
    obtain ⟨_, world, -, -, rfl⟩ := h
    exact ⟨world, rfl⟩
  · split at h
    · cases h
    · exact world_of_registerLocal_error h

/-- However registering a plan ends, some of its files were registered one after the other, from
the first on, and nothing but the world changed since. -/
theorem registrations_of_registerPlan {classpath : Classpath} {plan : List PlanEntry}
    {result : Except StagingError Classpath}
    (h : (uploader.registerPlan host replication classpath plan).outcome s = (result, t)) :
    ∃ done u world, Registrations host uploader replication s done u ∧
      done.map Prod.fst <+: plan.filter uploader.takes ∧ t = { u with world } := by
  cases result with
  | ok classpath =>
      obtain ⟨done, run, hdone, -⟩ := registerPlan_ok_iff.1 h
      exact ⟨done, t, t.world, run, hdone ▸ List.prefix_rfl, rfl⟩
  | error e =>
      obtain ⟨done, u, entry, rest, run, hdone, failed⟩ := registerPlan_error_iff.1 h
      obtain ⟨world, rfl⟩ := world_of_registerSingle_error failed
      exact ⟨done, u, world, run, hdone ▸ List.prefix_append _ _, rfl⟩

/-- Bulk registration from a state gets as far as some registrations: it goes through the files of
its plan in order, and a failure may end it. -/
def Reaches (host : Host σ) (uploader : Uploader) (inputs : List Location) (logicalRoot : String)
    (replication : UInt16) (s : Submission σ) (done : List (PlanEntry × Registration))
    (t : Submission σ) : Prop :=
  checkArguments logicalRoot replication = .ok () ∧
    ∃ plan world, (Plan.ofInputs host logicalRoot inputs).outcome s.world = (.ok plan, world) ∧
      Registrations host uploader replication { s with world } done t ∧
      done.map Prod.fst <+: plan.filter uploader.takes

/-- However bulk registration ends, it got as far as some registrations, or to none, and nothing
but the world changed since. -/
theorem reaches_of_registerMany {inputs : List Location}
    {result : Except StagingError (List String)}
    (h : (uploader.registerMany host inputs logicalRoot replication).outcome s = (result, t)) :
    (∃ world, t = { s with world }) ∨
      ∃ done u world, Reaches host uploader inputs logicalRoot replication s done u ∧
        t = { u with world } := by
  simp only [registerMany, Run.outcome_bind, Run.outcome_ofExcept] at h
  cases checked : checkArguments logicalRoot replication with
  | error fault =>
      rw [checked] at h
      cases h
      exact .inl ⟨_, rfl⟩
  | ok =>
  simp only [checked, Except.mapError] at h
  cases planned : (Plan.ofInputs host logicalRoot inputs).outcome s.world with
  | mk answer world =>
  cases answer with
  | error cause =>
      rw [show (onWorld (Plan.ofInputs host logicalRoot inputs)).outcome s =
        (.error (.storage cause), { s with world }) from
          onWorld_error_iff.2 ⟨cause, world, planned, rfl, rfl⟩] at h
      cases h
      exact .inl ⟨world, rfl⟩
  | ok plan =>
      rw [show (onWorld (Plan.ofInputs host logicalRoot inputs)).outcome s =
        (.ok plan, { s with world }) from onWorld_ok_iff.2 ⟨world, planned, rfl⟩] at h
      cases hplan : (uploader.registerPlan host replication Classpath.empty plan).outcome
        { s with world } with
      | mk answer v =>
      obtain ⟨done, u, world', run, hdone, rfl⟩ := registrations_of_registerPlan hplan
      refine .inr ⟨done, u, world', ⟨checked, plan, world, planned, run, hdone⟩, ?_⟩
      simp only [hplan] at h
      cases answer <;> cases h <;> rfl

/-! ## Provenance -/

/-- Every record of a table is a shared library under its own name, if it is open to all; else it
is remote and was registered where it is, or it lies in the application's directory. -/
structure Provenance (uploader : Uploader) (registered : Location → Prop)
    (table : ResourceTable) : Prop where
  shared : ∀ key record, table.get? key = some record → record.visibility = .shared →
    ∃ entry ∈ uploader.shared.entries, entry.fileName = key ∧ entry.status.path = record.path ∧
      entry.status.size = record.size ∧ entry.status.modificationTime = record.modificationTime
  application : ∀ key record, table.get? key = some record → record.visibility = .application →
    (record.path.isRemote = true ∧ registered record.path) ∨
      (uploader.applicationDirectory.relativize? record.path).isSome = true

variable {registered more : Location → Prop} {table : ResourceTable} {root : String}

theorem provenance_empty : Provenance uploader registered .empty where
  shared := by
    intro key record h
    cases h
  application := by
    intro key record h
    cases h

theorem Provenance.mono (h : Provenance uploader registered table)
    (grows : ∀ location, registered location → more location) :
    Provenance uploader more table where
  shared := h.shared
  application key record found visible :=
    (h.application key record found visible).imp_left fun ⟨remote, known⟩ =>
      ⟨remote, grows _ known⟩

/-- Registering the shared libraries keeps where the records come from. -/
theorem Provenance.withProvided (h : Provenance uploader registered table) :
    Provenance uploader registered (uploader.withProvided table) where
  shared key record found visible := by
    rw [get?_withProvided] at found
    cases hentry : uploader.shared.get? key with
    | none =>
        rw [hentry] at found
        exact h.shared key record found visible
    | some entry =>
        obtain ⟨hmem, hname⟩ := SharedLibraryIndex.get?_eq_some.1 hentry
        rw [hentry] at found
        obtain rfl := Option.some.inj found
        exact ⟨entry, hmem, hname, rfl, rfl, rfl⟩
  application key record found visible := by
    rw [get?_withProvided] at found
    cases hentry : uploader.shared.get? key with
    | none =>
        rw [hentry] at found
        exact h.application key record found visible
    | some entry =>
        rw [hentry] at found
        obtain rfl := Option.some.inj found
        cases visible

/-- A record of the application that comes from where it should keeps where the records come
from. -/
theorem Provenance.insert {resource : LocalResource} (h : Provenance uploader registered table)
    (visible : resource.visibility = .application)
    (origin : (resource.path.isRemote = true ∧ registered resource.path) ∨
      (uploader.applicationDirectory.relativize? resource.path).isSome = true) :
    Provenance uploader registered (table.register key resource).2 where
  shared other record found hshared := by
    rw [ResourceTable.get?_register] at found
    split at found
    · cases found
      cases visible.symm.trans hshared
    · exact h.shared other record found hshared
  application other record found happlication := by
    rw [ResourceTable.get?_register] at found
    split at found
    · cases found
      exact origin
    · exact h.application other record found happlication

/-- A registration keeps where the records come from, its own source being registered now. -/
theorem Provenance.register {s t : Submission Disk} {registration : Registration}
    (h : Provenance uploader registered s.resources)
    (normal : uploader.applicationDirectory.Normal)
    (step : Registers (Disk.host root) uploader key source directory replication s registration
      t) :
    Provenance uploader (fun location => registered location ∨ location = source)
      t.resources := by
  have h : Provenance uploader (fun location => registered location ∨ location = source)
      s.resources := h.mono fun _ => .inl
  cases step with
  | reusedShared here shadow => exact h
  | alreadyRemote remote found =>
      obtain rfl := Disk.path_of_stat found
      exact h.insert rfl (.inl ⟨Location.localPath?_eq_none.1 remote, .inr rfl⟩)
  | uploaded here free seen other named copied =>
      exact h.insert rfl (.inr (by rw [relativize?_destinationOf normal named]; rfl))

/-- So do registrations one after the other. -/
theorem Provenance.registrations {s t : Submission Disk}
    {done : List (PlanEntry × Registration)}
    (h : Provenance uploader registered s.resources)
    (normal : uploader.applicationDirectory.Normal)
    (run : Registrations (Disk.host root) uploader replication s done t) :
    Provenance uploader
      (fun location => registered location ∨ ∃ entry ∈ done, entry.1.source = location)
      t.resources := by
  induction run generalizing registered with
  | nil => exact h.mono fun _ => .inl
  | @cons _ t _ _ _ _ first others ih =>
      have next := h.register (t := t) normal (registerSingle_ok_iff.1 first)
      refine (ih next).mono ?_
      rintro location ((known | rfl) | ⟨entry, hentry, rfl⟩)
      · exact .inl known
      · exact .inr ⟨_, List.mem_cons_self, rfl⟩
      · exact .inr ⟨entry, List.mem_cons_of_mem _ hentry, rfl⟩

/-! ## Calls -/

/-- A call on an uploader, or something else that changes the world. -/
inductive Call (σ : Type) where
  | single (key : String) (source : Location) (directory : String) (replication : UInt16)
  | many (inputs : List Location) (logicalRoot : String) (replication : UInt16)
  | provided
  | elsewhere (change : σ → σ)

/-- The submission after a call, whether it succeeds or fails. -/
def Call.after (host : Host σ) (uploader : Uploader) (s : Submission σ) :
    Call σ → Submission σ
  | .single key source directory replication =>
      ((uploader.registerSingle host key source directory replication).outcome s).2
  | .many inputs logicalRoot replication =>
      ((uploader.registerMany host inputs logicalRoot replication).outcome s).2
  | .provided => (uploader.registerProvided.outcome s : Except StagingError _ × _).2
  | .elsewhere change => { s with world := change s.world }

/-- Whether a call registers a location: its artifact, or one of the files that it gets to. -/
def Call.Registered (host : Host σ) (uploader : Uploader) (s : Submission σ)
    (location : Location) : Call σ → Prop
  | .single key source directory replication =>
      location = source ∧
        ∃ registration t, (uploader.registerSingle host key source directory
          replication).outcome s = (.ok registration, t)
  | .many inputs logicalRoot replication =>
      ∃ done t, Reaches host uploader inputs logicalRoot replication s done t ∧
        ∃ entry ∈ done, entry.1.source = location
  | .provided => False
  | .elsewhere _ => False

/-- The submission after calls one after the other. -/
def afterCalls (host : Host σ) (uploader : Uploader) (s : Submission σ)
    (calls : List (Call σ)) : Submission σ :=
  calls.foldl (Call.after host uploader) s

/-- Whether one of some calls registers a location. -/
def RegisteredBy (host : Host σ) (uploader : Uploader) (location : Location) :
    Submission σ → List (Call σ) → Prop
  | _, [] => False
  | s, call :: rest =>
      call.Registered host uploader s location ∨
        RegisteredBy host uploader location (call.after host uploader s) rest

theorem Provenance.registerSingle {s : Submission Disk}
    (h : Provenance uploader registered s.resources)
    (normal : uploader.applicationDirectory.Normal) (key : String) (source : Location)
    (directory : String) (replication : UInt16) :
    Provenance uploader
      (fun location => registered location ∨
        Call.Registered (Disk.host root) uploader s location
          (.single key source directory replication))
      (Call.after (Disk.host root) uploader s
        (.single key source directory replication)).resources := by
  simp only [Call.after, Call.Registered]
  cases hrun : (uploader.registerSingle (Disk.host root) key source directory
    replication).outcome s with
  | mk answer t =>
  cases answer with
  | error e =>
      obtain ⟨world, rfl⟩ := world_of_registerSingle_error hrun
      exact h.mono (fun _ => .inl)
  | ok registration =>
      refine (h.register normal (registerSingle_ok_iff.1 hrun)).mono ?_
      rintro location (known | rfl)
      · exact .inl known
      · exact .inr ⟨rfl, registration, t, rfl⟩

theorem Provenance.registerMany {s : Submission Disk}
    (h : Provenance uploader registered s.resources)
    (normal : uploader.applicationDirectory.Normal) (inputs : List Location)
    (logicalRoot : String) (replication : UInt16) :
    Provenance uploader
      (fun location => registered location ∨
        Call.Registered (Disk.host root) uploader s location
          (.many inputs logicalRoot replication))
      (Call.after (Disk.host root) uploader s
        (.many inputs logicalRoot replication)).resources := by
  simp only [Call.after, Call.Registered]
  cases hrun : (uploader.registerMany (Disk.host root) inputs logicalRoot
    replication).outcome s with
  | mk answer v =>
  obtain ⟨world, rfl⟩ | ⟨done, t, world, reaches, rfl⟩ := reaches_of_registerMany hrun
  · exact h.mono (fun _ => .inl)
  · have ⟨_, plan, planned, _, run, _⟩ := reaches
    refine (Provenance.registrations (s := { s with world := planned }) h normal run).mono ?_
    rintro location (known | among)
    · exact .inl known
    · exact .inr ⟨done, t, reaches, among⟩

/-- A call keeps where the records come from. -/
theorem Provenance.call {s : Submission Disk} (h : Provenance uploader registered s.resources)
    (normal : uploader.applicationDirectory.Normal) (call : Call Disk) :
    Provenance uploader
      (fun location => registered location ∨
        call.Registered (Disk.host root) uploader s location)
      (call.after (Disk.host root) uploader s).resources := by
  cases call with
  | provided => exact (h.withProvided).mono fun _ => .inl
  | elsewhere change => exact h.mono fun _ => .inl
  | single key source directory replication =>
      exact h.registerSingle normal key source directory replication
  | many inputs logicalRoot replication =>
      exact h.registerMany normal inputs logicalRoot replication

/-- So do calls one after the other. -/
theorem provenance_afterCalls (root : String) {s : Submission Disk} (calls : List (Call Disk))
    (h : Provenance uploader registered s.resources)
    (normal : uploader.applicationDirectory.Normal) :
    Provenance uploader
      (fun location => registered location ∨
        RegisteredBy (Disk.host root) uploader location s calls)
      (afterCalls (Disk.host root) uploader s calls).resources := by
  induction calls generalizing registered s with
  | nil => exact h.mono (fun _ => .inl)
  | cons call rest ih =>
      refine (ih (h.call normal call)).mono ?_
      rintro location ((known | now) | later)
      · exact .inl known
      · exact .inr (.inl now)
      · exact .inr (.inr later)

/-- **Where the records of a table come from.**  After any calls on an uploader that was opened on a
disk, in any order and whether they succeeded or failed, a record open to every application is that
of the shared library of its key, and a record of the application is remote and was registered
itself, or lies in the application's directory. -/
theorem record_of_afterCalls {home : Location} {roots : List Location}
    {applicationId : ApplicationId} {options : StagingOptions} {disk opened : Disk}
    (run : (open? (Disk.host root) home roots applicationId options).outcome disk =
      (.ok uploader, opened))
    (calls : List (Call Disk)) (key : String) (record : LocalResource)
    (found : (afterCalls (Disk.host root) uploader (.start opened) calls).resources.get? key =
      some record) :
    (record.visibility = .shared →
      ∃ entry ∈ uploader.shared.entries, entry.fileName = key ∧
        entry.status.path = record.path ∧ entry.status.size = record.size ∧
        entry.status.modificationTime = record.modificationTime) ∧
    (record.visibility = .application →
      (record.path.isRemote = true ∧
        RegisteredBy (Disk.host root) uploader record.path (.start opened) calls) ∨
      (uploader.applicationDirectory.relativize? record.path).isSome = true) := by
  have normal : uploader.applicationDirectory.Normal := by
    rw [eq_of_open? run]
    exact normal_applicationDirectory home options.space applicationId
  have empty : Provenance uploader (fun _ => False) (Submission.start opened).resources :=
    provenance_empty
  have h := provenance_afterCalls root calls empty normal
  refine ⟨h.shared key record found, fun visible => ?_⟩
  exact (h.application key record found visible).imp_left fun ⟨remote, known⟩ =>
    ⟨remote, known.resolve_left id⟩

end Uploader

namespace Sample

open Uploader

/-- A file that is missing, the shared libraries, a remote file, and then two directories. -/
def calls : List (Call Disk) :=
  [.single "k" (here "none") "" 1, .provided, .single "k" (there "/c") "" 1, .many inputs "l" 1]

/-- The table after these calls. -/
def table : ResourceTable :=
  (afterCalls (Disk.host "r") (uploader (here "h")) (start (here "h")) calls).resources

/-- The record of the shared library, and that of the remote file. -/
theorem record_of_afterCalls_sample :
    ∃ library artifact, table.get? "s" = some library ∧ table.get? "k" = some artifact ∧
      (∃ entry ∈ shared.entries, entry.fileName = "s" ∧ entry.status.path = library.path ∧
        entry.status.size = library.size ∧
        entry.status.modificationTime = library.modificationTime) ∧
      ((artifact.path.isRemote = true ∧
          RegisteredBy (Disk.host "r") (uploader (here "h")) artifact.path (start (here "h"))
            calls) ∨
        ((uploader (here "h")).applicationDirectory.relativize? artifact.path).isSome = true) := by
  have run := openAt_eq library_found
  obtain ⟨library, artifact⟩ : table.get? "s" = some ⟨there "/l/s", 1, 5, .shared⟩ ∧
      table.get? "k" = some ⟨there "/c", 1, 5, .application⟩ := by decide +kernel
  exact ⟨_, _, library, artifact, (record_of_afterCalls run calls "s" _ library).1 rfl,
    (record_of_afterCalls run calls "k" _ artifact).2 rfl⟩

end Sample

end ArtifactStaging
