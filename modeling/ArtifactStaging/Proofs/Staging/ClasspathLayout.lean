/-
# ArtifactStaging.Proofs.Staging.ClasspathLayout -- what a classpath lists

`Classpath.IsLayout` says what the classpath of some files is, without saying how
it is built: the directories of the files that are no archives, then the archives,
each of the two sets enumerated in the order of bytes.  `Classpath.isLayout_ofEntries`
says that this is what is built, and `IsLayout.unique` that the files decide it.

For bulk registration, `registerMany_isLayout` says which files these are: those of
the plan that are no distribution bundle and were not replaced by a shared library.
-/
import ArtifactStaging.Proofs.Staging.Registering
import ArtifactStaging.Proofs.Text.ByteOrder

set_option autoImplicit false

namespace ArtifactStaging

open Text

namespace Classpath

/-- The classpath of some files: the directories of those that are no archives, then the
archives. -/
def IsLayout (classpath : List String) (entries : List PlanEntry) : Prop :=
  ∃ directories archives, classpath = directories ++ archives ∧
    Enumerates directories (fun text =>
      ∃ entry ∈ entries, isArchive entry.destination = false ∧ entry.directory = text) ∧
    Enumerates archives (fun text =>
      ∃ entry ∈ entries, isArchive entry.destination = true ∧ entry.destination = text)

theorem mem_directories_foldl_add (classpath : Classpath) (entries : List PlanEntry)
    (text : String) :
    text ∈ (entries.foldl add classpath).directories.keys ↔
      text ∈ classpath.directories.keys ∨
        ∃ entry ∈ entries, isArchive entry.destination = false ∧ entry.directory = text := by
  induction entries generalizing classpath with
  | nil => simp
  | cons entry rest ih =>
      rw [List.foldl_cons, ih]
      cases harchive : isArchive entry.destination with
      | true => simp [add, harchive]
      | false => simp [add, harchive, Dictionary.mem_keys_insert, or_assoc, or_left_comm]

theorem mem_archives_foldl_add (classpath : Classpath) (entries : List PlanEntry)
    (text : String) :
    text ∈ (entries.foldl add classpath).archives.keys ↔
      text ∈ classpath.archives.keys ∨
        ∃ entry ∈ entries, isArchive entry.destination = true ∧ entry.destination = text := by
  induction entries generalizing classpath with
  | nil => simp
  | cons entry rest ih =>
      rw [List.foldl_cons, ih]
      cases harchive : isArchive entry.destination with
      | true => simp [add, harchive, Dictionary.mem_keys_insert, or_assoc, or_left_comm]
      | false => simp [add, harchive]

/-- What is built for some files is their layout. -/
theorem isLayout_ofEntries (entries : List PlanEntry) : IsLayout (ofEntries entries) entries := by
  refine ⟨_, _, rfl, .of_ascending (Dictionary.keys_ascending _) fun text => ?_,
    .of_ascending (Dictionary.keys_ascending _) fun text => ?_⟩
  · rw [mem_directories_foldl_add]
    simp [empty, Dictionary.keys, Dictionary.empty]
  · rw [mem_archives_foldl_add]
    simp [empty, Dictionary.keys, Dictionary.empty]

/-- What a file puts on a classpath. -/
def contribution (entry : PlanEntry) : String :=
  if isArchive entry.destination then entry.destination else entry.directory

theorem IsLayout.mem_iff {classpath : List String} {entries : List PlanEntry} {text : String}
    (h : IsLayout classpath entries) :
    text ∈ classpath ↔ ∃ entry ∈ entries, contribution entry = text := by
  obtain ⟨directories, archives, rfl, hdirectories, harchives⟩ := h
  rw [List.mem_append, hdirectories.mem_iff, harchives.mem_iff]
  constructor
  · rintro (⟨entry, hentry, harchive, rfl⟩ | ⟨entry, hentry, harchive, rfl⟩)
    · exact ⟨entry, hentry, by simp [contribution, harchive]⟩
    · exact ⟨entry, hentry, by simp [contribution, harchive]⟩
  · rintro ⟨entry, hentry, rfl⟩
    cases harchive : isArchive entry.destination with
    | false => exact .inl ⟨entry, hentry, harchive, by simp [contribution, harchive]⟩
    | true => exact .inr ⟨entry, hentry, harchive, by simp [contribution, harchive]⟩

/-- Files that make up the same set have the same classpath, in whatever order they come. -/
theorem IsLayout.unique {classpath other : List String} {entries others : List PlanEntry}
    (h : IsLayout classpath entries) (h' : IsLayout other others)
    (same : ∀ entry, entry ∈ entries ↔ entry ∈ others) : classpath = other := by
  obtain ⟨directories, archives, rfl, hdirectories, harchives⟩ := h
  obtain ⟨directories', archives', rfl, hdirectories', harchives'⟩ := h'
  simp only [← same] at hdirectories' harchives'
  rw [hdirectories.unique hdirectories', harchives.unique harchives']

end Classpath

namespace Uploader

variable {σ : Type} {host : Host σ} {uploader : Uploader} {inputs : List Location}
  {logicalRoot : String} {replication : UInt16} {s t : Submission σ} {classpath : List String}

/-- **The classpath of a bulk registration.**  It is the layout of those files of the plan that
are no distribution bundle and whose registration was private. -/
theorem registerMany_isLayout
    (h : (uploader.registerMany host inputs logicalRoot replication).outcome s =
      (.ok classpath, t)) :
    ∃ plan world done,
      (Plan.ofInputs host logicalRoot inputs).outcome s.world = (.ok plan, world) ∧
      Registrations host uploader replication { s with world } done t ∧
      done.map Prod.fst = plan.filter uploader.takes ∧
      Classpath.IsLayout classpath (privateEntries done) := by
  obtain ⟨-, plan, world, done, planned, run, hdone, rfl⟩ := registerMany_ok_iff.1 h
  exact ⟨plan, world, done, planned, run, hdone, Classpath.isLayout_ofEntries _⟩

open Sample in
/-- The bundle and the shadow of a library are left out, and the remote file is not. -/
theorem registerMany_isLayout_sample :
    (registering (here "h") Sample.inputs (start (here "h"))).1.toOption =
        some ["l", "l/x", "l/x/b.jar"] ∧
      ∃ plan world done,
        (Plan.ofInputs Sample.host "l" Sample.inputs).outcome (start (here "h")).world =
          (.ok plan, world) ∧
        Registrations Sample.host (Sample.uploader (here "h")) 1
          { start (here "h") with world } done
          (registering (here "h") Sample.inputs (start (here "h"))).2 ∧
        done.map Prod.fst = plan.filter (Sample.uploader (here "h")).takes ∧
        Classpath.IsLayout ["l", "l/x", "l/x/b.jar"] (privateEntries done) := by
  have answered : (registering (here "h") Sample.inputs (start (here "h"))).1.toOption =
      some ["l", "l/x", "l/x/b.jar"] := by decide +kernel
  exact ⟨answered, registerMany_isLayout (registering_eq answered)⟩

end Uploader

end ArtifactStaging
