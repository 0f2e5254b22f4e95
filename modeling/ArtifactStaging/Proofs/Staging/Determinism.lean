/-
# ArtifactStaging.Proofs.Staging.Determinism -- what a classpath depends on

On a disk the classpath of a bulk registration is the layout of the files that it
lists (`Lists`): those that its inputs bring, less the distribution bundle and the
shadows of shared libraries.  Neither the uploads of a registration nor its table
have a part in this.

* The order and the repetition of inputs do not matter: `registerMany_order_irrelevant`.
* A registration that is repeated right away sees the disk that the first one left
  behind.  What was listed the first time is listed again, and whatever is listed besides
  was put into an input by the first one: `registerMany_again`.  That can be:
  `registerMany_again_differs` has the application's directory inside an input.
-/
import ArtifactStaging.Proofs.Staging.ClasspathLayout
import ArtifactStaging.Proofs.Staging.Planning
import ArtifactStaging.Proofs.Storage.Growth

set_option autoImplicit false

namespace ArtifactStaging

namespace Uploader

open Classpath Sample

variable {root logicalRoot : String} {uploader other : Uploader} {inputs inputs' : List Location}
  {replication : UInt16} {s s' t t' u : Submission Disk} {classpath classpath' : List String}
  {entry : PlanEntry}

/-- On a disk, a bulk registration of some inputs lists a file for the classpath. -/
structure Lists (root logicalRoot : String) (uploader : Uploader) (disk : Disk)
    (inputs : List Location) (entry : PlanEntry) : Prop where
  brought : ∃ input ∈ inputs, Plan.Brings root logicalRoot disk input entry
  taken : uploader.takes entry = true
  unshadowed : uploader.shadows entry.source = false

/-- The classpath of a bulk registration on a disk is the layout of what it lists. -/
theorem registerMany_disk_layout
    (h : (uploader.registerMany (Disk.host root) inputs logicalRoot replication).outcome s =
      (.ok classpath, t)) :
    ∃ entries, IsLayout classpath entries ∧
      ∀ entry, entry ∈ entries ↔ Lists root logicalRoot uploader s.world inputs entry := by
  obtain ⟨-, plan, world, done, planned, run, hdone, rfl⟩ := registerMany_ok_iff.1 h
  refine ⟨_, isLayout_ofEntries _, fun entry => ?_⟩
  rw [run.privateEntries_eq, hdone, List.mem_filter, List.mem_filter,
    Plan.mem_ofInputs_disk planned, Bool.not_eq_true']
  constructor
  · rintro ⟨⟨brought, taken⟩, unshadowed⟩
    exact ⟨brought, taken, unshadowed⟩
  · rintro ⟨brought, taken, unshadowed⟩
    exact ⟨⟨brought, taken⟩, unshadowed⟩

/-- Bulk registration makes the files of a disk grow. -/
theorem registerMany_grows
    (h : (uploader.registerMany (Disk.host root) inputs logicalRoot replication).outcome s =
      (.ok classpath, t)) : s.world.files.Grows t.world.files := by
  obtain ⟨-, plan, world, done, planned, run, -, -⟩ := registerMany_ok_iff.1 h
  obtain ⟨rfl, -⟩ := Plan.ofInputs_disk_ok_iff.1 planned
  exact run.grows

/-! ## The order of the inputs -/

/-- **The order of the inputs does not matter.**  From the same disk, with the same shared
libraries and the same distribution bundle, the same set of inputs has the same classpath. -/
theorem registerMany_order_irrelevant (world : s'.world = s.world)
    (shared : other.shared = uploader.shared)
    (pattern : other.options.distPattern = uploader.options.distPattern)
    (same : ∀ input, input ∈ inputs ↔ input ∈ inputs')
    (h : (uploader.registerMany (Disk.host root) inputs logicalRoot replication).outcome s =
      (.ok classpath, t))
    (h' : (other.registerMany (Disk.host root) inputs' logicalRoot replication).outcome s' =
      (.ok classpath', t')) : classpath = classpath' := by
  obtain ⟨entries, layout, mem⟩ := registerMany_disk_layout h
  obtain ⟨entries', layout', mem'⟩ := registerMany_disk_layout h'
  refine layout.unique layout' fun entry => ?_
  have htakes : other.takes entry = uploader.takes entry := by simp [takes, pattern]
  have hshadows : other.shadows entry.source = uploader.shadows entry.source := by
    simp [shadows, shared]
  rw [mem, mem', world]
  constructor
  · rintro ⟨⟨input, hinput, brings⟩, taken, unshadowed⟩
    exact ⟨⟨input, (same input).1 hinput, brings⟩, htakes.trans taken, hshadows.trans unshadowed⟩
  · rintro ⟨⟨input, hinput, brings⟩, taken, unshadowed⟩
    exact ⟨⟨input, (same input).2 hinput, brings⟩, htakes.symm.trans taken,
      hshadows.symm.trans unshadowed⟩

/-- Another order, with one input twice. -/
theorem registerMany_order_irrelevant_sample :
    (registering (here "h") [here "y", there "/c"] (start (here "h"))).1.toOption =
        some ["l", "l/y"] ∧
      ∃ classpath,
        (registering (here "h") [there "/c", here "y", there "/c"]
          (start (here "h"))).1.toOption = some classpath ∧
        ["l", "l/y"] = classpath := by
  have first : (registering (here "h") [here "y", there "/c"] (start (here "h"))).1.toOption =
      some ["l", "l/y"] := by decide +kernel
  have second : (registering (here "h") [there "/c", here "y", there "/c"]
      (start (here "h"))).1.toOption.isSome = true := by decide +kernel
  obtain ⟨classpath, answered⟩ := Option.isSome_iff_exists.1 second
  have same (input : Location) : input ∈ [here "y", there "/c"] ↔
      input ∈ [there "/c", here "y", there "/c"] := by
    simp only [List.mem_cons, List.not_mem_nil, or_false]
    grind
  exact ⟨first, classpath, answered, registerMany_order_irrelevant rfl rfl rfl same
    (registering_eq first) (registering_eq answered)⟩

/-! ## The same registration again -/

/-- **A registration that is repeated.**  When no input has become a directory, all that was
listed is listed again, and whatever is listed besides comes from names that did not ship from
its input the first time.  When there are none of these, the classpath is the same. -/
theorem registerMany_again
    (first : (uploader.registerMany (Disk.host root) inputs logicalRoot replication).outcome s =
      (.ok classpath, t))
    (second : (uploader.registerMany (Disk.host root) inputs logicalRoot replication).outcome t =
      (.ok classpath', u))
    (kinds : ∀ input ∈ inputs, t.world.files.isDirectory (Disk.resolve root input) = true →
      s.world.files.isDirectory (Disk.resolve root input) = true) :
    classpath ⊆ classpath' ∧
      (∀ text ∈ classpath', text ∈ classpath ∨
        ∃ input ∈ inputs, ∃ names ∈ Plan.positions root t.world input,
          names ∉ Plan.positions root s.world input ∧
          ∃ entry, Plan.entryAt? logicalRoot input names.shown = some entry ∧
            contribution entry = text) ∧
      ((∀ input ∈ inputs, Plan.positions root t.world input ⊆
        Plan.positions root s.world input) → classpath' = classpath) := by
  have grows := registerMany_grows first
  obtain ⟨entries, layout, mem⟩ := registerMany_disk_layout first
  obtain ⟨entries', layout', mem'⟩ := registerMany_disk_layout second
  have kept (entry : PlanEntry) (h : entry ∈ entries) : entry ∈ entries' := by
    obtain ⟨⟨input, hinput, brings⟩, taken, unshadowed⟩ := (mem entry).1 h
    exact (mem' entry).2
      ⟨⟨input, hinput, brings.of_grows grows (kinds input hinput)⟩, taken, unshadowed⟩
  have fresh (entry : PlanEntry) (h : entry ∈ entries') : entry ∈ entries ∨
      ∃ input ∈ inputs, ∃ names ∈ Plan.positions root t.world input,
        names ∉ Plan.positions root s.world input ∧
        Plan.entryAt? logicalRoot input names.shown = some entry := by
    obtain ⟨⟨input, hinput, brings⟩, taken, unshadowed⟩ := (mem' entry).1 h
    rcases brings.of_grown grows (kinds input hinput) with before | ⟨names, hnames, appeared⟩
    · exact .inl ((mem entry).2 ⟨⟨input, hinput, before⟩, taken, unshadowed⟩)
    · exact .inr ⟨input, hinput, names, hnames, appeared⟩
  refine ⟨?_, ?_, ?_⟩
  · intro text htext
    obtain ⟨entry, hentry, rfl⟩ := layout.mem_iff.1 htext
    exact layout'.mem_iff.2 ⟨entry, kept entry hentry, rfl⟩
  · intro text htext
    obtain ⟨entry, hentry, rfl⟩ := layout'.mem_iff.1 htext
    rcases fresh entry hentry with before | ⟨input, hinput, names, hnames, habsent, hentry⟩
    · exact .inl (layout.mem_iff.2 ⟨entry, before, rfl⟩)
    · exact .inr ⟨input, hinput, names, hnames, habsent, entry, hentry, rfl⟩
  · intro unchanged
    refine layout'.unique layout fun entry => ⟨fun h => ?_, kept entry⟩
    rcases fresh entry h with before | ⟨input, hinput, names, hnames, habsent, -⟩
    · exact before
    · exact absurd (unchanged input hinput hnames) habsent

/-- The home apart from the inputs: the second registration answers what the first one did. -/
theorem registerMany_again_sample :
    (registering (here "h") [here "y"] (start (here "h"))).1.toOption = some ["l/y"] ∧
      ∃ classpath, (registering (here "h") [here "y"]
          (registering (here "h") [here "y"] (start (here "h"))).2).1.toOption =
            some classpath ∧
        classpath = ["l/y"] := by
  have first : (registering (here "h") [here "y"] (start (here "h"))).1.toOption =
      some ["l/y"] := by decide +kernel
  have second : (registering (here "h") [here "y"]
      (registering (here "h") [here "y"] (start (here "h"))).2).1.toOption.isSome = true := by
    decide +kernel
  have unchanged : ∀ input ∈ [here "y"],
      ((registering (here "h") [here "y"] (start (here "h"))).2.world.files.isDirectory
          (Disk.resolve "r" input) = true →
        (start (here "h")).world.files.isDirectory (Disk.resolve "r" input) = true) ∧
      Plan.positions "r" (registering (here "h") [here "y"] (start (here "h"))).2.world input ⊆
        Plan.positions "r" (start (here "h")).world input := by
    decide +kernel
  obtain ⟨classpath, answered⟩ := Option.isSome_iff_exists.1 second
  exact ⟨first, classpath, answered,
    (registerMany_again (registering_eq first) (registering_eq answered)
      fun input h => (unchanged input h).1).2.2 fun input h => (unchanged input h).2⟩

/-- With the home inside an input, the second registration finds what the first one uploaded. -/
theorem registerMany_again_differs :
    ¬ ∀ (root : String) (home : Location) (roots : List Location) (applicationId : ApplicationId)
      (options : StagingOptions) (disk opened : Disk) (uploader : Uploader)
      (inputs : List Location) (logicalRoot : String) (replication : UInt16)
      (t u : Submission Disk) (classpath classpath' : List String),
      (open? (Disk.host root) home roots applicationId options).outcome disk =
          (.ok uploader, opened) →
        (uploader.registerMany (Disk.host root) inputs logicalRoot replication).outcome
            (.start opened) = (.ok classpath, t) →
          (uploader.registerMany (Disk.host root) inputs logicalRoot replication).outcome t =
              (.ok classpath', u) →
            classpath' = classpath := by
  intro claim
  have found : (openAt (there "/m")).1.toOption.map Uploader.shared = some Sample.shared := by
    decide +kernel
  have first : (registering (there "/m") [there "/m", here "y/a"]
      (start (there "/m"))).1.toOption = some ["l"] := by decide +kernel
  have second : (registering (there "/m") [there "/m", here "y/a"]
      (registering (there "/m") [there "/m", here "y/a"] (start (there "/m"))).2).1.toOption =
      some ["l", "l/m/.n/i/l"] := by decide +kernel
  have same := claim "r" _ _ _ _ _ _ _ _ _ _ _ _ _ _ (openAt_eq found)
    (registering_eq first) (registering_eq second)
  exact absurd same (by decide)

end Uploader

end ArtifactStaging
