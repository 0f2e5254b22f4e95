/-
# ArtifactStaging.Proofs.Staging.ProvidedLibraries -- what registering the shared libraries does

Every shared library is registered under its name, whatever the table holds.  No two
libraries have one name, so no registration takes back an earlier one
(`get?_withProvided`): afterwards each name has the record of its library, and every
other key what it had.

The table is then one that holds all these records, and to register a record that is
there already changes nothing (`register_of_held`).  So registering the libraries once
more leaves the submission as it is (`registerProvided_settles`).
-/
import ArtifactStaging.Proofs.Staging.Coverage

set_option autoImplicit false

namespace ArtifactStaging

/-- Registering what a key holds already changes nothing. -/
theorem ResourceTable.register_of_held {table : ResourceTable} {key : String}
    {resource : LocalResource} (held : table.get? key = some resource) :
    table.register key resource = (.unchanged, table) := by
  simp [register, held]

namespace Uploader

variable {σ : Type} {uploader : Uploader} {table : ResourceTable}

/-- A library's name has the record of the library. -/
theorem get?_withProvided_fileName {entry : SharedEntry} (here : entry ∈ uploader.shared.entries)
    (table : ResourceTable) :
    (uploader.withProvided table).get? entry.fileName = some (sharedResource entry) := by
  rw [get?_withProvided, SharedLibraryIndex.get?_eq_some.2 ⟨here, rfl⟩]
  rfl

/-- Any other key has what it had. -/
theorem get?_withProvided_of_absent {key : String}
    (absent : ∀ entry ∈ uploader.shared.entries, entry.fileName ≠ key) (table : ResourceTable) :
    (uploader.withProvided table).get? key = table.get? key := by
  have unlisted : uploader.shared.get? key = none := by
    rw [SharedLibraryIndex.get?_eq_find?]
    apply List.find?_eq_none.2
    intro entry here
    simpa using absent entry here
  rw [get?_withProvided, unlisted]
  rfl

/-- A table that holds every library's record is not changed by registering them. -/
theorem withProvided_of_held
    (held : ∀ entry ∈ uploader.shared.entries,
      table.get? entry.fileName = some (sharedResource entry)) :
    uploader.withProvided table = table := by
  unfold withProvided
  generalize uploader.shared.entries = entries at held
  induction entries with
  | nil => rfl
  | cons first rest ih =>
      obtain ⟨here, others⟩ := List.forall_mem_cons.1 held
      rw [List.foldl_cons, ResourceTable.register_of_held here]
      exact ih others

/-- **Registering the shared libraries settles their names.**  In every state of a submission it
succeeds and leaves the world and the shipment alone.  Afterwards each library's name has the
`PUBLIC` record of that library, and every other key what it had.  The answer has, each once and in
the order of the index, exactly the names that are not the distribution bundle's.  Done a second
time it answers the same and changes nothing. -/
theorem registerProvided_settles {ε : Type} (uploader : Uploader) (s : Submission σ) :
    ∃ names t,
      (uploader.registerProvided : Run (Submission σ) ε _).outcome s = (.ok names, t) ∧
      t.world = s.world ∧ t.shipment = s.shipment ∧
      (∀ entry ∈ uploader.shared.entries, t.resources.get? entry.fileName =
        some ⟨entry.status.path, entry.status.size, entry.status.modificationTime, .shared⟩) ∧
      (∀ key, (∀ entry ∈ uploader.shared.entries, entry.fileName ≠ key) →
        t.resources.get? key = s.resources.get? key) ∧
      names.Nodup ∧ names.Sublist (uploader.shared.entries.map SharedEntry.fileName) ∧
      (∀ name, name ∈ names ↔ (∃ entry ∈ uploader.shared.entries, entry.fileName = name) ∧
        uploader.options.distPattern.accepts name = false) ∧
      (uploader.registerProvided : Run (Submission σ) ε _).outcome t = (.ok names, t) := by
  have ordered : uploader.providedClasspath.Sublist
      (uploader.shared.entries.map SharedEntry.fileName) := List.filter_sublist
  have again : uploader.withProvided (uploader.withProvided s.resources) =
      uploader.withProvided s.resources :=
    withProvided_of_held fun entry here => get?_withProvided_fileName here _
  refine ⟨_, _, rfl, rfl, rfl, ?_, ?_, ordered.nodup uploader.shared.distinct, ordered, ?_, ?_⟩
  · intro entry here
    exact get?_withProvided_fileName here _
  · intro key absent
    exact get?_withProvided_of_absent absent _
  · intro name
    simp [providedClasspath]
  · change (Except.ok _, Submission.mk _ (uploader.withProvided (uploader.withProvided _)) _) = _
    rw [again]

end Uploader

namespace Sample

/-- The libraries `s` and `b.q`, of which the second is the distribution bundle. -/
def stocked : Uploader :=
  let libraries : List SharedEntry :=
    [⟨"s", ⟨there "/l/s", 1, 5, false⟩, 0⟩, ⟨"b.q", ⟨there "/m/b.q", 2, 6, false⟩, 1⟩]
  { uploader (here "h") with
    shared := (libraries.foldl SharedLibraryIndex.Pass.add .start).toSharedLibraryIndex }

/-- A record of the application's own under `s`, and one under `x`. -/
def occupied : ResourceTable :=
  .ofList [("s", ⟨here "h/s", 9, 9, .application⟩), ("x", ⟨here "h/x", 8, 8, .application⟩)]

/-- The library `s` takes the key from the application's own record, the bundle is in the table and
not in the answer, and `x` is left alone. -/
theorem registerProvided_settles_sample :
    ∃ names t, (stocked.registerProvided : Run (Submission Disk) StagingError _).outcome
        ⟨disk, occupied, .empty⟩ = (.ok names, t) ∧
      t.resources.get? "s" = some ⟨there "/l/s", 1, 5, .shared⟩ ∧
      t.resources.get? "b.q" = some ⟨there "/m/b.q", 2, 6, .shared⟩ ∧
      t.resources.get? "x" = some ⟨here "h/x", 8, 8, .application⟩ ∧
      "s" ∈ names ∧ "b.q" ∉ names := by
  obtain ⟨names, t, run, -, -, held, kept, -, -, listed, -⟩ :=
    Uploader.registerProvided_settles (ε := StagingError) stocked ⟨disk, occupied, .empty⟩
  have bundle : stocked.options.distPattern.accepts "b.q" = true := by decide
  have library : stocked.options.distPattern.accepts "s" = false := by decide
  refine ⟨names, t, run, held ⟨"s", ⟨there "/l/s", 1, 5, false⟩, 0⟩ (by decide),
    held ⟨"b.q", ⟨there "/m/b.q", 2, 6, false⟩, 1⟩ (by decide), ?_, ?_, ?_⟩
  · exact (kept "x" (by decide)).trans (by decide)
  · exact (listed "s").2 ⟨⟨⟨"s", ⟨there "/l/s", 1, 5, false⟩, 0⟩, by decide, rfl⟩, library⟩
  · rw [listed, bundle]
    simp

end Sample

end ArtifactStaging
