/-
# ArtifactStaging.Proofs.Staging.Coverage -- two classpaths and one table

A submission registers its shared libraries and its inputs, in either order.  The one answers the
names of the libraries, the other the classpath of the inputs, and both fill one table.  They pass
over files by rules of their own: a shared library stands in for an input by the name of the
input's *source*, while the distribution bundle is left out by the name at its *destination*, or,
among the libraries, by the library's.

`Covers` says that nothing falls between them.  Every file of the plan but the bundle is on one of
the two classpaths and in the table, and whatever the classpaths list is in the table.  The rules
fit together because a file that is shadowed goes by the name of its source
(`Plan.fileName_eq_name`).
-/
import ArtifactStaging.Proofs.Staging.ClasspathLayout
import ArtifactStaging.Proofs.Staging.Destinations

set_option autoImplicit false

namespace ArtifactStaging

theorem ResourceTable.contains_register {table : ResourceTable} {key other : String}
    {resource : LocalResource} :
    (table.register key resource).2.contains other = true ↔
      key = other ∨ table.contains other = true := by
  change ((table.register key resource).2.get? other).isSome = true ↔
    key = other ∨ (table.get? other).isSome = true
  rw [get?_register]
  split
  · next heq => simp [heq]
  · next hne => simp [hne]

namespace Uploader

variable {σ : Type} {host : Host σ} {uploader : Uploader} {inputs : List Location}
  {root logicalRoot key : String} {replication : UInt16} {s t : Submission σ}
  {done : List (PlanEntry × Registration)} {table : ResourceTable}

/-! ## The keys of the table -/

/-- The shared libraries add their names. -/
theorem contains_withProvided :
    (uploader.withProvided table).contains key = true ↔
      uploader.shared.contains key = true ∨ table.contains key = true := by
  rw [SharedLibraryIndex.contains_eq]
  change ((uploader.withProvided table).get? key).isSome = true ↔
    _ ∨ (table.get? key).isSome = true
  rw [get?_withProvided]
  cases uploader.shared.get? key with
  | none => simp
  | some entry => simp

/-- A run of registrations adds the destinations of the files that are private. -/
theorem Registrations.contains (run : Registrations host uploader replication s done t) :
    t.resources.contains key = true ↔ s.resources.contains key = true ∨
      ∃ one ∈ done, one.2.isPrivate = true ∧ one.1.destination = key := by
  induction run with
  | nil => simp
  | cons first others ih =>
      have step := registerSingle_ok_iff.1 first
      rw [ih]
      dsimp only
      rw [step.resources]
      cases hprivate : Registration.isPrivate _ with
      | false => simp [hprivate]
      | true =>
          rw [if_pos rfl, ResourceTable.contains_register, step.key_of_isPrivate hprivate]
          simp [hprivate, or_assoc, or_left_comm]

/-! ## Coverage -/

/-- The classpath of the shared libraries and that of the inputs, the files that were registered
and the table agree. -/
structure Covers (done : List (PlanEntry × Registration)) (table : ResourceTable)
    (provided classpath : List String) : Prop where
  /-- A private file is in the table under its destination, and on the classpath of the inputs. -/
  own : ∀ one ∈ done, one.2.isPrivate = true →
    table.contains one.1.destination = true ∧ Classpath.contribution one.1 ∈ classpath
  /-- A file that a shared library stands in for is there under its name, on the classpath of the
  libraries. -/
  shadowed : ∀ one ∈ done, one.2.isPrivate = false →
    table.contains one.1.fileName = true ∧ one.1.fileName ∈ provided
  /-- What the classpath of the inputs lists is in the table: the archives, and something in
  every directory. -/
  listed : ∃ directories archives, classpath = directories ++ archives ∧
    (∀ text ∈ directories, ∃ entry : PlanEntry, isArchive entry.destination = false ∧
      table.contains entry.destination = true ∧ entry.directory = text) ∧
    ∀ text ∈ archives, isArchive text = true ∧ table.contains text = true
  /-- What the classpath of the libraries lists is in the table. -/
  provided : ∀ name ∈ provided, table.contains name = true

theorem mem_providedClasspath {name : String} :
    name ∈ uploader.providedClasspath ↔ uploader.shared.contains name = true ∧
      uploader.options.distPattern.accepts name = false := by
  have hcontains : uploader.shared.contains name = true ↔
      name ∈ uploader.shared.entries.map SharedEntry.fileName := by
    rw [SharedLibraryIndex.contains_eq, Option.isSome_iff_exists, List.mem_map]
    exact exists_congr fun entry => SharedLibraryIndex.get?_eq_some
  rw [providedClasspath, List.mem_filter, ← hcontains]
  simp

theorem mem_privateEntries {entry : PlanEntry} :
    entry ∈ privateEntries done ↔ ∃ one ∈ done, one.2.isPrivate = true ∧ one.1 = entry := by
  simp [privateEntries]

/-- A file that a shared library stands in for goes by the library's name. -/
theorem contains_fileName {plan : List PlanEntry} {disk world : Disk} {u v : Submission Disk}
    (normal : ∀ input ∈ inputs, input.Normal) (wellNamed : disk.files.tree.WellNamed)
    (planned : (Plan.ofInputs (Disk.host root) logicalRoot inputs).outcome disk = (.ok plan, world))
    (run : Registrations (Disk.host root) uploader replication u done v)
    (hdone : done.map Prod.fst = plan.filter uploader.takes)
    {one : PlanEntry × Registration} (hone : one ∈ done) (shadowed : one.2.isPrivate = false) :
    uploader.shared.contains one.1.fileName = true ∧
      uploader.options.distPattern.accepts one.1.fileName = false := by
  have hmem : one.1 ∈ plan.filter uploader.takes := by
    rw [← hdone]
    exact List.mem_map_of_mem hone
  obtain ⟨hplan, htakes⟩ := List.mem_filter.1 hmem
  obtain ⟨_, _, step⟩ := run.registers one hone
  have hshadows : uploader.shadows one.1.source = true := by
    have hprivate := step.isPrivate_eq
    rw [shadowed] at hprivate
    simpa using hprivate.symm
  obtain ⟨here, hname⟩ := Bool.and_eq_true_iff.1 hshadows
  obtain ⟨input, hinput, brings⟩ := (Plan.mem_ofInputs_disk planned).1 hplan
  have hfile := Plan.fileName_eq_name (normal input hinput) wellNamed brings (by simpa using here)
  rw [hfile]
  refine ⟨hname, ?_⟩
  rw [← hfile]
  simpa [takes] using htakes

/-- Registrations are covered by any table that has their keys and the shared libraries. -/
theorem covers_of_registrations {plan : List PlanEntry} {disk world : Disk}
    {u v : Submission Disk} (normal : ∀ input ∈ inputs, input.Normal)
    (wellNamed : disk.files.tree.WellNamed)
    (planned : (Plan.ofInputs (Disk.host root) logicalRoot inputs).outcome disk = (.ok plan, world))
    (run : Registrations (Disk.host root) uploader replication u done v)
    (hdone : done.map Prod.fst = plan.filter uploader.takes)
    (libraries : ∀ name, uploader.shared.contains name = true → table.contains name = true)
    (files : ∀ one ∈ done, one.2.isPrivate = true → table.contains one.1.destination = true) :
    Covers done table uploader.providedClasspath
      (Classpath.ofEntries (privateEntries done)) where
  own := by
    intro one hone hprivate
    refine ⟨files one hone hprivate, ?_⟩
    rw [(Classpath.isLayout_ofEntries _).mem_iff]
    exact ⟨one.1, mem_privateEntries.2 ⟨one, hone, hprivate, rfl⟩, rfl⟩
  shadowed := by
    intro one hone hshadowed
    have name := contains_fileName normal wellNamed planned run hdone hone hshadowed
    exact ⟨libraries _ name.1, mem_providedClasspath.2 name⟩
  listed := by
    obtain ⟨directories, archives, heq, hdirectories, harchives⟩ :=
      Classpath.isLayout_ofEntries (privateEntries done)
    refine ⟨directories, archives, heq, ?_, ?_⟩
    · intro text htext
      obtain ⟨entry, hentry, harchive, hdirectory⟩ := (hdirectories.mem_iff text).1 htext
      obtain ⟨one, hone, hprivate, rfl⟩ := mem_privateEntries.1 hentry
      exact ⟨one.1, harchive, files one hone hprivate, hdirectory⟩
    · intro text htext
      obtain ⟨entry, hentry, harchive, rfl⟩ := (harchives.mem_iff text).1 htext
      obtain ⟨one, hone, hprivate, rfl⟩ := mem_privateEntries.1 hentry
      exact ⟨harchive, files one hone hprivate⟩
  provided := by
    intro name hname
    exact libraries name (mem_providedClasspath.1 hname).1

/-! ## Submissions -/

/-- The shared libraries and the inputs of a submission are registered, in either order. -/
inductive RegistersBoth (host : Host σ) (uploader : Uploader) (inputs : List Location)
    (logicalRoot : String) (replication : UInt16) (s t : Submission σ)
    (provided classpath : List String) : Prop
  | librariesFirst {u : Submission σ}
      (libraries : (uploader.registerProvided : Run _ StagingError _).outcome s = (.ok provided, u))
      (files : (uploader.registerMany host inputs logicalRoot replication).outcome u =
        (.ok classpath, t))
  | inputsFirst {u : Submission σ}
      (files : (uploader.registerMany host inputs logicalRoot replication).outcome s =
        (.ok classpath, u))
      (libraries : (uploader.registerProvided : Run _ StagingError _).outcome u = (.ok provided, t))

/-- **Nothing falls between the classpaths.**  However a submission orders its two registrations,
the files of the plan that are no distribution bundle, the two classpaths and the table agree. -/
theorem registersBoth_covers {provided classpath : List String} {s t : Submission Disk}
    (read : ∀ input ∈ inputs, ∃ raw, Location.parse? raw = some input)
    (wellNamed : s.world.files.tree.WellNamed)
    (run : RegistersBoth (Disk.host root) uploader inputs logicalRoot replication s t provided
      classpath) :
    ∃ plan done u v,
      (Plan.ofInputs (Disk.host root) logicalRoot inputs).outcome s.world = (.ok plan, s.world) ∧
      u.world = s.world ∧ Registrations (Disk.host root) uploader replication u done v ∧
      done.map Prod.fst = plan.filter uploader.takes ∧
      Covers done t.resources provided classpath := by
  have normal : ∀ input ∈ inputs, input.Normal := by
    intro input hinput
    obtain ⟨raw, parsed⟩ := read input hinput
    exact Location.normal_of_parse? parsed
  cases run with
  | librariesFirst libraries files =>
      cases libraries
      obtain ⟨-, plan, world, done, planned, registered, hdone, rfl⟩ := registerMany_ok_iff.1 files
      obtain rfl := (Plan.ofInputs_disk_ok_iff.1 planned).1
      refine ⟨plan, done, { s with resources := uploader.withProvided s.resources }, t, planned,
        rfl, registered, hdone, ?_⟩
      refine covers_of_registrations normal wellNamed planned registered hdone ?_ ?_
      · intro name hname
        exact registered.contains.2 (.inl (contains_withProvided.2 (.inl hname)))
      · intro one hone hprivate
        exact registered.contains.2 (.inr ⟨one, hone, hprivate, rfl⟩)
  | @inputsFirst u files libraries =>
      cases libraries
      obtain ⟨-, plan, world, done, planned, registered, hdone, rfl⟩ := registerMany_ok_iff.1 files
      obtain rfl := (Plan.ofInputs_disk_ok_iff.1 planned).1
      refine ⟨plan, done, s, u, planned, rfl, registered, hdone, ?_⟩
      refine covers_of_registrations normal wellNamed planned registered hdone ?_ ?_
      · intro name hname
        exact contains_withProvided.2 (.inl hname)
      · intro one hone hprivate
        have hkey := registered.contains.2 (.inr ⟨one, hone, hprivate, rfl⟩)
        exact contains_withProvided.2 (.inr hkey)

open Sample in
/-- The inputs first: the shadow of the library is on the libraries' classpath only. -/
theorem registersBoth_covers_sample :
    ∃ t plan done u v, RegistersBoth Sample.host (Sample.uploader (here "h")) Sample.inputs "l" 1
        (start (here "h")) t ["s"] ["l", "l/x", "l/x/b.jar"] ∧
      (Plan.ofInputs Sample.host "l" Sample.inputs).outcome (start (here "h")).world =
        (.ok plan, (start (here "h")).world) ∧
      Registrations Sample.host (Sample.uploader (here "h")) 1 u done v ∧
      done.map Prod.fst = plan.filter (Sample.uploader (here "h")).takes ∧
      Covers done t.resources ["s"] ["l", "l/x", "l/x/b.jar"] := by
  have answered : (registering (here "h") Sample.inputs (start (here "h"))).1.toOption =
      some ["l", "l/x", "l/x/b.jar"] := by decide +kernel
  have run : RegistersBoth (Disk.host "r") (Sample.uploader (here "h")) Sample.inputs "l" 1
      (start (here "h")) _ ["s"] ["l", "l/x", "l/x/b.jar"] :=
    .inputsFirst (registering_eq answered) rfl
  have read : ∀ input ∈ Sample.inputs, ∃ raw, Location.parse? raw = some input := by
    simp only [Sample.inputs, List.forall_mem_cons, List.not_mem_nil, false_implies, implies_true,
      and_true]
    exact ⟨⟨"x", by decide +kernel⟩, ⟨"h:///c", by decide +kernel⟩, ⟨"y/a", by decide +kernel⟩⟩
  have wellNamed : (start (here "h")).world.files.tree.WellNamed :=
    FileTree.wellNamed_iff.2 (by decide +kernel)
  obtain ⟨plan, done, u, v, planned, -, registered, hdone, covers⟩ :=
    registersBoth_covers read wellNamed run
  exact ⟨_, plan, done, u, v, run, planned, registered, hdone, covers⟩

end Uploader

end ArtifactStaging
