/-
# ArtifactStaging.Proofs.Storage.Rehearsing -- what a rehearsal writes down

A rehearsal without faults passes every call on, so a run on it goes as the run on
what is behind it, and what it wrote down can be told from the run.

`Run.Simulates` compares two runs: from states that match they give one answer and
reach states that match.  It is kept by all that runs are put together from, so it
holds of registrations because it holds of each call of storage (`play_simulates`).
States match here if the rehearsal has the other state behind it and has written down
no copy but to locations that are allowed (`Rehearsal.Follows`).
-/
import ArtifactStaging.Proofs.Staging.Registering
import ArtifactStaging.Storage.Script

set_option autoImplicit false

namespace ArtifactStaging

/-! ## Runs side by side -/

namespace Run

variable {σ τ ε δ α β : Type} {Match : σ → τ → Prop} {run : Run σ ε α} {run' : Run τ ε α}

/-- From states that match, two runs give one answer and reach states that match. -/
def Simulates (Match : σ → τ → Prop) (run : Run σ ε α) (run' : Run τ ε α) : Prop :=
  ∀ s t, Match s t →
    (run.outcome s).1 = (run'.outcome t).1 ∧ Match (run.outcome s).2 (run'.outcome t).2

namespace Simulates

theorem pure (a : α) : Simulates Match (Pure.pure a : Run σ ε α) (Pure.pure a : Run τ ε α) :=
  fun _ _ h => ⟨rfl, h⟩

theorem throw (e : ε) :
    Simulates Match (MonadExcept.throw e : Run σ ε α) (MonadExcept.throw e : Run τ ε α) :=
  fun _ _ h => ⟨rfl, h⟩

theorem ofExcept (result : Except ε α) :
    Simulates Match (Run.ofExcept result : Run σ ε α) (Run.ofExcept result : Run τ ε α) :=
  fun _ _ h => ⟨rfl, h⟩

theorem view {look : σ → α} {look' : τ → α} (same : ∀ s t, Match s t → look s = look' t) :
    Simulates Match (Run.view look : Run σ ε α) (Run.view look' : Run τ ε α) :=
  fun s t h => ⟨congrArg Except.ok (same s t h), h⟩

theorem bind {next : α → Run σ ε β} {next' : α → Run τ ε β} (first : Simulates Match run run')
    (rest : ∀ a, Simulates Match (next a) (next' a)) :
    Simulates Match (run >>= next) (run' >>= next') := by
  intro s t h
  rw [outcome_bind, outcome_bind]
  have hfirst := first s t h
  cases hs : run.outcome s with
  | mk answer s' =>
  cases ht : run'.outcome t with
  | mk answer' t' =>
  rw [hs, ht] at hfirst
  obtain ⟨rfl, reached⟩ := hfirst
  cases answer with
  | error e => exact ⟨rfl, reached⟩
  | ok a => exact rest a s' t' reached

theorem attempt (h : Simulates Match run run') :
    Simulates Match (run.attempt : Run σ δ _) (run'.attempt : Run τ δ _) := by
  intro s t hmatch
  obtain ⟨answers, reached⟩ := h s t hmatch
  exact ⟨congrArg Except.ok answers, reached⟩

end Simulates

end Run

open Run

/-! ## Rehearsals -/

namespace Rehearsal

variable {σ : Type} {allowed : Location → Prop} {before : List StorageNote}

/-- A rehearsal without faults that has a state behind it and, since it had written down some
notes, wrote down no copy but to locations that are allowed. -/
structure Follows (allowed : Location → Prop) (before : List StorageNote)
    (rehearsal : Rehearsal σ) (inner : σ) : Prop where
  behind : rehearsal.inner = inner
  faultless : rehearsal.faults = []
  noted : ∃ new, rehearsal.notes = new ++ before ∧
    ∀ source destination overwrite deleteSource,
      .copyFromLocal source destination overwrite deleteSource ∈ new → allowed destination

/-- Without faults a call is counted, written down and passed on. -/
theorem outcome_play {α : Type} {call : StorageCall} {path : Location}
    {note : Option StorageNote} {ofListing : List FileStatus → Option α}
    {run : Run σ StorageError α} {rehearsal : Rehearsal σ} (h : rehearsal.faults = []) :
    (play call path note ofListing run).outcome rehearsal =
      ((run.outcome rehearsal.inner).1,
        { rehearsal with
          inner := (run.outcome rehearsal.inner).2
          calls := call :: rehearsal.calls
          notes := note.toList ++ rehearsal.notes }) := by
  simp [play, scripted?, h, passOn]

/-- A call is followed if it is no copy, or a copy to where it is allowed. -/
theorem play_simulates {α : Type} {call : StorageCall} {path : Location}
    {note : Option StorageNote} {ofListing : List FileStatus → Option α}
    {run : Run σ StorageError α}
    (fits : ∀ source destination overwrite deleteSource,
      note = some (.copyFromLocal source destination overwrite deleteSource) →
        allowed destination) :
    Simulates (Follows allowed before) (play call path note ofListing run) run := by
  rintro rehearsal _ ⟨rfl, faultless, new, hnotes, hnew⟩
  rw [outcome_play faultless]
  refine ⟨rfl, rfl, faultless, note.toList ++ new, by simp [hnotes], ?_⟩
  intro source destination overwrite deleteSource hmem
  rcases List.mem_append.1 hmem with hnote | hold
  · exact fits _ _ _ _ (Option.mem_toList.1 hnote)
  · exact hnew _ _ _ _ hold

section

variable (behind : Storage σ) (path : Location)

/-! The calls of storage that staging makes. -/

theorem isDirectory_simulates :
    Simulates (Follows allowed before) ((storage behind).isDirectory path)
      (behind.isDirectory path) :=
  play_simulates (by simp)

theorem stat_simulates :
    Simulates (Follows allowed before) ((storage behind).stat path) (behind.stat path) :=
  play_simulates (by simp)

theorem listStatus_simulates :
    Simulates (Follows allowed before) ((storage behind).listStatus path)
      (behind.listStatus path) :=
  play_simulates (by simp)

theorem listFiles_simulates :
    Simulates (Follows allowed before) ((storage behind).listFiles path)
      (behind.listFiles path) :=
  play_simulates (by simp)

theorem setReplication_simulates (factor : UInt16) :
    Simulates (Follows allowed before) ((storage behind).setReplication path factor)
      (behind.setReplication path factor) :=
  play_simulates (by simp)

theorem copyFromLocal_simulates (source : String) (overwrite deleteSource : Bool)
    (fits : allowed path) :
    Simulates (Follows allowed before)
      ((storage behind).copyFromLocal source path overwrite deleteSource)
      (behind.copyFromLocal source path overwrite deleteSource) :=
  play_simulates (by rintro _ _ _ _ heq; cases heq; exact fits)

end

end Rehearsal

/-! ## Submissions -/

namespace Submission

variable {σ τ α : Type} {Match : σ → τ → Prop} {run : Run σ StorageError α}
  {run' : Run τ StorageError α}

/-- Two submissions whose worlds match, and which are one otherwise. -/
structure Matches (Match : σ → τ → Prop) (s : Submission σ) (t : Submission τ) : Prop where
  worlds : Match s.world t.world
  resources : s.resources = t.resources
  shipment : s.shipment = t.shipment

theorem onWorld_simulates (h : Simulates Match run run') :
    Simulates (Matches Match) (onWorld run) (onWorld run') := by
  rintro s t ⟨worlds, resources, shipment⟩
  obtain ⟨answers, reached⟩ := h s.world t.world worlds
  exact ⟨congrArg (Except.mapError StagingError.storage) answers, reached, resources, shipment⟩

theorem register_simulates (key : String) (resource : LocalResource) :
    Simulates (Matches Match) (register key resource) (register key resource) := by
  rintro s t ⟨worlds, resources, shipment⟩
  refine ⟨rfl, worlds, ?_, shipment⟩
  change (s.resources.register key resource).2 = (t.resources.register key resource).2
  rw [resources]

theorem ship_simulates {ε : Type} (descriptor : ArtifactDescriptor) :
    Simulates (Matches Match) (ship descriptor : Run (Submission σ) ε Unit)
      (ship descriptor : Run (Submission τ) ε Unit) := by
  rintro s t ⟨worlds, resources, shipment⟩
  refine ⟨rfl, worlds, resources, ?_⟩
  change s.shipment.push descriptor = t.shipment.push descriptor
  rw [shipment]

end Submission

open Submission

/-! ## Staging on a disk -/

section

variable {root : String} {allowed : Location → Prop} {before : List StorageNote}
  {uploader : Uploader} {replication : UInt16}

/-- A pause is written down, and takes no time of the disk. -/
theorem Rehearsal.pause_simulates {α : Type} {delay : UInt64}
    {rest : Run (Rehearsal Disk) StorageError α} {rest' : Run Disk StorageError α}
    (h : Simulates (Follows allowed before) rest rest') :
    Simulates (Follows allowed before)
      ((liftM ((host (Disk.host root)).pause delay) : Run (Rehearsal Disk) StorageError Bool) >>=
        fun _ => rest)
      ((liftM ((Disk.host root).pause delay) : Run Disk StorageError Bool) >>= fun _ => rest') := by
  rintro rehearsal disk ⟨rfl, faultless, noted⟩
  rw [outcome_bind, outcome_bind, outcome_lift, outcome_lift]
  exact h _ _ ⟨rfl, faultless, noted⟩

theorem Listing.awaitWithin_simulates (delay : UInt64) (path : Location) (attempts : Nat) :
    Simulates (Rehearsal.Follows allowed before)
      (awaitWithin (Rehearsal.host (Disk.host root)) delay path attempts)
      (awaitWithin (Disk.host root) delay path attempts) := by
  induction attempts with
  | zero => exact .pure none
  | succ attempts ih =>
      refine (Rehearsal.listStatus_simulates _ path).attempt.bind fun answer => ?_
      cases verdict answer with
      | shown statuses => exact .pure (some statuses)
      | failed error => exact .throw error
      | notYet =>
          dsimp only
          split
          · exact Rehearsal.pause_simulates ih
          · exact ih

theorem Plan.ofInput_simulates (logicalRoot : String) (input : Location) :
    Simulates (Rehearsal.Follows allowed before)
      (ofInput (Rehearsal.host (Disk.host root)) logicalRoot input)
      (ofInput (Disk.host root) logicalRoot input) := by
  unfold ofInput
  split
  · next path here =>
    refine Simulates.bind (.view fun s t h => ?_) fun files => .ofExcept _
    exact congrArg Disk.files h.behind
  · next remote =>
    refine (Rehearsal.isDirectory_simulates _ input).bind fun found => ?_
    split
    · exact (Rehearsal.listFiles_simulates _ input).bind fun files => .pure _
    · exact .pure _

theorem Plan.ofInputs_simulates (root logicalRoot : String) (inputs : List Location) :
    Simulates (Rehearsal.Follows allowed before)
      (ofInputs (Rehearsal.host (Disk.host root)) logicalRoot inputs)
      (ofInputs (Disk.host root) logicalRoot inputs) := by
  induction inputs with
  | nil => exact .pure []
  | cons input rest ih =>
      exact (ofInput_simulates logicalRoot input).bind fun entries =>
        ih.bind fun others => .pure _

namespace Uploader

/-- A file is copied to a location that is allowed. -/
theorem upload_simulates (path : String) (localTime : Int64) {destination : Location}
    (fits : allowed destination) :
    Simulates (Rehearsal.Follows allowed before)
      (uploader.upload (Rehearsal.host (Disk.host root)) path localTime destination replication)
      (uploader.upload (Disk.host root) path localTime destination replication) := by
  refine (Rehearsal.copyFromLocal_simulates _ destination path true false fits).bind fun _ =>
    (Rehearsal.setReplication_simulates _ destination replication).bind fun _ =>
      (Listing.awaitWithin_simulates _ _ _).bind fun shown => ?_
  split
  · exact .pure _
  · exact .pure _

theorem registerFile_simulates (key path directory : String) (size : UInt64) (localTime : Int64)
    (fits : ∀ fileName, PathText.fileName? path = some fileName →
      allowed (uploader.destinationOf directory fileName)) :
    Simulates (Matches (Rehearsal.Follows allowed before))
      (uploader.registerFile (Rehearsal.host (Disk.host root)) key path directory size localTime
        replication)
      (uploader.registerFile (Disk.host root) key path directory size localTime replication) := by
  unfold registerFile
  split
  · exact .throw _
  · next fileName named =>
    exact (onWorld_simulates (upload_simulates path localTime (fits fileName named))).bind
      fun time => (register_simulates _ _).bind fun _ => .pure _

theorem registerLocal_simulates (key path directory : String)
    (fits : ∀ fileName, PathText.fileName? path = some fileName →
      allowed (uploader.destinationOf directory fileName)) :
    Simulates (Matches (Rehearsal.Follows allowed before))
      (uploader.registerLocal (Rehearsal.host (Disk.host root)) key path directory replication)
      (uploader.registerLocal (Disk.host root) key path directory replication) := by
  refine Simulates.bind (.view fun s t h => ?_) fun files => ?_
  · exact congrArg Disk.files h.worlds.behind
  · split
    · exact .throw _
    · split
      · exact .throw _
      · exact registerFile_simulates _ _ _ _ _ fits

/-- A registration of a local artifact copies it to where it goes. -/
theorem registerSingle_simulates (key : String) (source : Location) (directory : String)
    (fits : ∀ path fileName, source.localPath? = some path →
      PathText.fileName? path = some fileName →
        allowed (uploader.destinationOf directory fileName)) :
    Simulates (Matches (Rehearsal.Follows allowed before))
      (uploader.registerSingle (Rehearsal.host (Disk.host root)) key source directory replication)
      (uploader.registerSingle (Disk.host root) key source directory replication) := by
  unfold registerSingle
  split
  · next remote =>
    exact (onWorld_simulates (Rehearsal.stat_simulates _ source)).bind fun status =>
      (register_simulates _ _).bind fun _ => .pure _
  · next path here =>
    split
    · exact .pure _
    · exact registerLocal_simulates key path directory (fun fileName => fits path fileName here)

/-- The copies of a plan go to where its files go. -/
theorem registerPlan_simulates (classpath : Classpath) (plan : List PlanEntry)
    (fits : ∀ entry ∈ plan, ∀ path fileName, entry.source.localPath? = some path →
      PathText.fileName? path = some fileName →
        allowed (uploader.destinationOf entry.directory fileName)) :
    Simulates (Matches (Rehearsal.Follows allowed before))
      (uploader.registerPlan (Rehearsal.host (Disk.host root)) replication classpath plan)
      (uploader.registerPlan (Disk.host root) replication classpath plan) := by
  induction plan generalizing classpath with
  | nil => exact .pure classpath
  | cons entry rest ih =>
      obtain ⟨first, others⟩ := List.forall_mem_cons.1 fits
      rw [registerPlan, registerPlan]
      split
      · exact ih classpath others
      · exact (registerSingle_simulates _ _ _ first).bind fun registration =>
          (ship_simulates _).bind fun _ => ih _ others

/-- **Bulk registration in a rehearsal.**  It goes as on the disk, and every copy that is written
down goes to where a file of the plan goes. -/
theorem registerMany_simulates (replication : UInt16) {inputs : List Location}
    {logicalRoot : String}
    {s : Submission (Rehearsal Disk)} {t : Submission Disk}
    (h : Matches (Rehearsal.Follows allowed before) s t)
    (fits : ∀ plan world,
      (Plan.ofInputs (Disk.host root) logicalRoot inputs).outcome t.world = (.ok plan, world) →
        ∀ entry ∈ plan, ∀ path fileName, entry.source.localPath? = some path →
          PathText.fileName? path = some fileName →
            allowed (uploader.destinationOf entry.directory fileName)) :
    ((uploader.registerMany (Rehearsal.host (Disk.host root)) inputs logicalRoot
        replication).outcome s).1 =
      ((uploader.registerMany (Disk.host root) inputs logicalRoot replication).outcome t).1 ∧
    Matches (Rehearsal.Follows allowed before)
      ((uploader.registerMany (Rehearsal.host (Disk.host root)) inputs logicalRoot
        replication).outcome s).2
      ((uploader.registerMany (Disk.host root) inputs logicalRoot replication).outcome t).2 := by
  unfold registerMany
  rw [outcome_bind, outcome_bind, outcome_ofExcept, outcome_ofExcept]
  cases (checkArguments logicalRoot replication).mapError StagingError.invalidArgument with
  | error e => exact ⟨rfl, h⟩
  | ok =>
  dsimp only
  have planned := onWorld_simulates (Plan.ofInputs_simulates root logicalRoot inputs) s t h
  rw [outcome_bind, outcome_bind]
  cases hs : (onWorld (Plan.ofInputs (Rehearsal.host (Disk.host root)) logicalRoot
    inputs)).outcome s with
  | mk answer s' =>
  cases ht : (onWorld (Plan.ofInputs (Disk.host root) logicalRoot inputs)).outcome t with
  | mk answer' t' =>
  rw [hs, ht] at planned
  obtain ⟨rfl, reached⟩ := planned
  cases answer with
  | error e => exact ⟨rfl, reached⟩
  | ok plan =>
      obtain ⟨world, onDisk, -⟩ := onWorld_ok_iff.1 ht
      exact ((registerPlan_simulates _ plan (fits plan world onDisk)).bind
        fun classpath => .pure _) s' t' reached

end Uploader

end

end ArtifactStaging
