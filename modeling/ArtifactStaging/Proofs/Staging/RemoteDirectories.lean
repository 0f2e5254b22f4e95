/-
# ArtifactStaging.Proofs.Staging.RemoteDirectories -- where the files of a remote directory go

A file of a remote directory keeps its place relative to the directory's parent:
its destination goes on with the name of the directory and then with the names
that lead to the file.  So a destination tells which file it is for
(`keptPlace_inj`), and no two files share one.

A remote directory need not have a parent.  A root has none, and neither has an
opaque location of one segment, as in `hh:c`.  There is nothing to relativize
against then, and what remains of the place of a file is its last name:
`ofInputs_remoteDirectory` says what a plan holds in either case, and in the
second two files may go to one destination (`remoteDirectory_collides`).
-/
import ArtifactStaging.Proofs.Staging.Walking
import ArtifactStaging.Proofs.Storage.Resolving
import Mathlib.Data.List.Nodup

set_option autoImplicit false

namespace ArtifactStaging

open Text

/-! ## The parent of a location -/

namespace Location

variable {location parent : Location} {relative : String}

/-- Relative to the parent, what was joined stands behind the name. -/
theorem relativize?_of_parent? (normal : location.Normal) (h : location.parent? = some parent)
    (inhabited : trim '/' relative.toList ≠ []) :
    ∃ placed, parent.relativize? (location.join relative) = some placed ∧
      trim '/' placed.toList = (joinRelative location.name relative).toList := by
  have whole := isRoot_of_parent? h
  obtain ⟨hname, noSlash⟩ := normal.name whole
  have trimmed : trim '/' location.name.toList = location.name.toList := trim_of_notMem noSlash
  have named : trim '/' location.name.toList ≠ [] := by simpa [trimmed] using hname
  obtain ⟨hscheme, hauthority, slashes, hpath⟩ := path_of_parent? h
  refine ⟨String.ofList (List.replicate slashes '/' ++
    (location.name.toList ++ '/' :: trim '/' relative.toList)), ?_, ?_⟩
  · refine relativize?_eq_some.2 ⟨by simp [hscheme], by simp [hauthority], ?_, by simp⟩
    rw [path_join normal inhabited, lead, if_neg (by simp [whole]), hpath]
    simp
  · rw [String.toList_ofList, trim_replicate_append, toList_joinRelative, if_neg named,
      if_neg inhabited, trimmed]
    have between := trim_append_cons named inhabited
    rwa [trimmed] at between

/-- What was joined goes by its last name. -/
theorem name_join_concat {parts : List String} {last : String} (normal : location.Normal)
    (proper : ∀ name ∈ parts ++ [last], name ≠ "" ∧ '/' ∉ name.toList) :
    (location.join (Text.join "/" (parts ++ [last]))).name = last := by
  obtain ⟨hlast, whole⟩ := proper last (by simp)
  obtain ⟨trimmed, inhabited⟩ := PathText.trim_join (by simp) proper
  obtain ⟨front, hlead, -⟩ := normal.lead_eq_append
  have hpath := path_join normal (trimmed ▸ inhabited)
  rw [trimmed, hlead, List.append_assoc] at hpath
  have named : ∀ before,
      (location.join (Text.join "/" (parts ++ [last]))).path.toList = before ++ '/' :: last.toList →
        (location.join (Text.join "/" (parts ++ [last]))).name = last :=
    fun before heq => by
      rw [name_of_path (by simpa using hlast) whole heq, String.ofList_toList]
  by_cases alone : parts = []
  · exact named front (by rw [hpath, alone]; simp [Text.join])
  · refine named (front ++ '/' :: (Text.join "/" parts).toList) ?_
    rw [hpath, PathText.join_concat alone]
    simp

end Location

/-! ## Destinations -/

namespace Plan

open FileSystem PathText

variable {root logicalRoot raw : String} {disk : Disk} {input : Location}
  {names other : List String}

/-- The place of a file of a remote directory, as far as its destination keeps it. -/
def keptPlace (input : Location) (names : List String) : String :=
  if input.parent?.isSome then joinRelative input.name (Text.join "/" names)
  else names.getLastD ""

/-- The entry of a file that `names` lead to beneath a remote directory. -/
theorem ofRemote_eq {status : FileStatus} (normal : input.Normal) (inhabited : names ≠ [])
    (proper : ∀ name ∈ names, name ≠ "" ∧ '/' ∉ name.toList)
    (listed : status.path = input.join (Text.join "/" names)) :
    ofRemote logicalRoot input.parent? status =
      ⟨input.join (Text.join "/" names), joinRelative logicalRoot (keptPlace input names)⟩ := by
  have kept : joinRelative logicalRoot
      ((input.parent?.bind (·.relativize? (input.join (Text.join "/" names)))).getD
        (input.join (Text.join "/" names)).name) =
      joinRelative logicalRoot (keptPlace input names) := by
    unfold keptPlace
    cases hparent : input.parent? with
    | none =>
        obtain hnil | ⟨parts, last, rfl⟩ := List.eq_nil_or_concat names
        · exact absurd hnil inhabited
        rw [List.concat_eq_append] at proper ⊢
        simp [Location.name_join_concat normal proper]
    | some parent =>
        obtain ⟨trimmed, joined⟩ := trim_join inhabited proper
        obtain ⟨placed, relativized, htrim⟩ :=
          Location.relativize?_of_parent? normal hparent (trimmed ▸ joined)
        simp only [Option.bind_some, relativized, Option.getD_some, Option.isSome_some, if_true]
        exact joinRelative_congr logicalRoot (htrim.trans (trim_joinRelative _ _).symm)
  rw [ofRemote, FileStatus.name, listed]
  exact congrArg (PlanEntry.mk _) kept

/-- A source tells where it lies beneath its directory. -/
theorem join_inj (normal : input.Normal) (proper : ∀ name ∈ names, name ≠ "" ∧ '/' ∉ name.toList)
    (proper' : ∀ name ∈ other, name ≠ "" ∧ '/' ∉ name.toList)
    (h : input.join (Text.join "/" names) = input.join (Text.join "/" other)) : names = other := by
  have hnames := congrArg (fun location => PathText.names location.path) h
  simpa [Location.names_join normal, PathText.names_join proper, PathText.names_join proper']
    using hnames

/-- A destination tells where its source lies, if the directory has a parent. -/
theorem keptPlace_inj (parent : input.parent?.isSome = true)
    (proper : ∀ name ∈ names, name ≠ "" ∧ '/' ∉ name.toList)
    (proper' : ∀ name ∈ other, name ≠ "" ∧ '/' ∉ name.toList)
    (h : joinRelative logicalRoot (keptPlace input names) =
      joinRelative logicalRoot (keptPlace input other)) : names = other := by
  have hnames := congrArg PathText.names h
  simpa [keptPlace, parent, names_joinRelative, PathText.names_join proper,
    PathText.names_join proper'] using hnames

/-- Names that are text are told apart by what is shown of them. -/
theorem shown_inj {first second : Place} (told : ∀ name ∈ first, name.IsText)
    (told' : ∀ name ∈ second, name.IsText) (same : first.shown = second.shown) :
    first = second := by
  have back {names : Place} (told : ∀ name ∈ names, name.IsText) :
      names.shown.map RawText.of = names := by
    rw [Place.shown, List.map_map]
    exact (List.map_congr_left told).trans (List.map_id names)
  rw [← back told, ← back told', same]

/-- Where nothing of what is shown is lost, there are duplicates exactly if files show the same
names. -/
theorem nodup_map_iff {α : Type} {f : Place → α} {positions : List Place}
    (told : ∀ names ∈ positions, ∀ other ∈ positions,
      f names = f other ↔ names.shown = other.shown) :
    (positions.map f).Nodup ↔ (positions.map Place.shown).Nodup := by
  simp only [List.Nodup, List.pairwise_map]
  exact List.Pairwise.iff_of_mem fun here there => not_congr (told _ here _ there)

variable {place : Place} {attributes : Attributes}

/-- The entries of a remote directory. -/
theorem entriesOf_remoteDirectory (logicalRoot : String) (normal : input.Normal)
    (remote : input.isRemote = true) (wellNamed : disk.files.tree.WellNamed)
    (led : disk.files.locate (Disk.resolve root input) = .ok (place, .directory attributes))
    (reached : ∀ names ∈ disk.files.shipping false (Disk.resolve root input),
      disk.files.pathExists (RawText.down (Disk.resolve root input) names) = true) :
    entriesOf root logicalRoot disk input =
      .ok ((disk.files.shipping false (Disk.resolve root input)).map fun names =>
        ⟨input.join (Text.join "/" names.shown),
          joinRelative logicalRoot (keptPlace input names.shown)⟩) := by
  have directory := isDirectory_iff.2 ⟨place, attributes, led⟩
  obtain ⟨files, listed⟩ := Disk.exists_listFiles directory reached
  -- An entry depends on the path of a status only.
  have paths : files.map (ofRemote logicalRoot input.parent?) =
      (files.map FileStatus.path).map fun path =>
        ofRemote logicalRoot input.parent? ⟨path, 0, 0, false⟩ := by
    rw [List.map_map]
    rfl
  have entry : disk.files.entry (Disk.resolve root input) = .ok (.directory attributes) := by
    rw [FileSystem.entry, led]
    rfl
  have planned : entriesOf root logicalRoot disk input =
      .ok (files.map (ofRemote logicalRoot input.parent?)) := by
    rw [entriesOf, Location.localPath?_eq_none.2 remote, Disk.probe, entry]
    dsimp only
    rw [listed]
    rfl
  rw [planned, paths, Disk.paths_of_listFiles listed directory, List.map_map]
  refine congrArg _ (List.map_congr_left fun names ships => ?_)
  obtain ⟨inhabited, proper⟩ := names_of_mem_shipping wellNamed ships
  exact ofRemote_eq normal inhabited proper rfl

/-- **The files of a remote directory.**  Planning a remote directory leaves the disk alone and
gives one entry for every file beneath it, if each can be looked at; a link to a file is one if the
system follows it.  The source is the location with what is shown of the names joined to it, and
behind that is the file itself exactly if its names are text.  If the directory has a parent, the
destination goes on from the logical root with the name of the directory and the place of the file
beneath it; if it has none, the destination keeps the name of the file only.  No two sources are the
same, and with a parent no two destinations, exactly if no two files show the same names; of names
that are text no two do. -/
theorem ofInputs_remoteDirectory (logicalRoot : String)
    (read : Location.parse? raw = some input) (remote : input.isRemote = true)
    (wellNamed : disk.files.tree.WellNamed)
    (led : disk.files.locate (Disk.resolve root input) = .ok (place, .directory attributes))
    (reached : ∀ names, disk.files.FileBeneath place names →
      disk.files.Follows (RawText.down (Disk.resolve root input) names) (place ++ names) →
      disk.files.pathExists (RawText.down (Disk.resolve root input) names) = true) :
    ∃ (positions : List Place) (plan : List PlanEntry),
      (ofInputs (Disk.host root) logicalRoot [input]).outcome disk = (.ok plan, disk) ∧
      positions.Nodup ∧
      (∀ names, names ∈ positions ↔ disk.files.FileBeneath place names ∧
        disk.files.Follows (RawText.down (Disk.resolve root input) names) (place ++ names)) ∧
      plan = positions.map (fun names =>
        ⟨input.join (Text.join "/" names.shown), joinRelative logicalRoot
          (if input.parent?.isSome then joinRelative input.name (Text.join "/" names.shown)
            else names.shown.getLastD "")⟩) ∧
      (∀ names ∈ positions,
        RawText.of (Disk.resolve root (input.join (Text.join "/" names.shown))) =
            RawText.down (Disk.resolve root input) names ↔
          ∀ name ∈ names, name.IsText) ∧
      ((plan.map PlanEntry.source).Nodup ↔ (positions.map Place.shown).Nodup) ∧
      (input.parent?.isSome = true →
        ((plan.map PlanEntry.destination).Nodup ↔ (positions.map Place.shown).Nodup)) ∧
      ((∀ names ∈ positions, ∀ name ∈ names, name.IsText) →
        (positions.map Place.shown).Nodup) := by
  have normal := Location.normal_of_parse? read
  have ships {names : Place} :
      names ∈ disk.files.shipping false (Disk.resolve root input) ↔
        disk.files.FileBeneath place names ∧
          disk.files.Follows (RawText.down (Disk.resolve root input) names) (place ++ names) :=
    mem_shipping_false_iff wellNamed led
  have proper : ∀ names ∈ disk.files.shipping false (Disk.resolve root input),
      ∀ name ∈ names.shown, name ≠ "" ∧ '/' ∉ name.toList :=
    fun names hships => (names_of_mem_shipping wellNamed hships).2
  have planned := entriesOf_remoteDirectory logicalRoot normal remote wellNamed led
    fun names hships => reached names (ships.1 hships).1 (ships.1 hships).2
  have once := shipping_nodup false disk.files (Disk.resolve root input)
  generalize hpositions : disk.files.shipping false (Disk.resolve root input) = positions
    at ships proper planned once
  have sources : (positions.map fun names => input.join (Text.join "/" names.shown)).Nodup ↔
      (positions.map Place.shown).Nodup := by
    refine nodup_map_iff fun names here other there => ⟨fun same => ?_, fun same => ?_⟩
    · exact join_inj normal (proper names here) (proper other there) same
    · rw [same]
  have destinations (parent : input.parent?.isSome = true) :
      (positions.map fun names => joinRelative logicalRoot (keptPlace input names.shown)).Nodup ↔
        (positions.map Place.shown).Nodup := by
    refine nodup_map_iff fun names here other there => ⟨fun same => ?_, fun same => ?_⟩
    · exact keptPlace_inj parent (proper names here) (proper other there) same
    · rw [same]
  refine ⟨positions, _, ofInputs_singleton planned, once, fun names => ships, rfl,
    fun names hships => ?_, ?_, fun parent => ?_, fun text => ?_⟩
  · have beneath := (mem_shipping_iff led).1 (hpositions ▸ hships)
    exact Disk.resolve_join_eq_iff (ne_empty_of_locate led) beneath.inhabited
      (beneath.proper wellNamed)
  · simpa only [List.map_map, Function.comp_def] using sources
  · simpa only [List.map_map, Function.comp_def, keptPlace] using destinations parent
  · exact List.Nodup.map_on (fun names here other there same =>
      shown_inj (text names here) (text other there) same) once

end Plan

namespace Sample

/-- A remote directory `c` with two files of one name, each in a directory of its own. -/
def twins : Disk := ⟨⟨treeOf
  [(["r"], directory), (["r", "hh"], directory), (["r", "hh", "_"], directory),
    (["r", "hh", "_", "c"], directory), (["r", "hh", "_", "c", "x"], directory),
    (["r", "hh", "_", "c", "x", "f"], file [49]), (["r", "hh", "_", "c", "y"], directory),
    (["r", "hh", "_", "c", "y", "f"], file [50])], [], 7, 1⟩, []⟩

/-- Written from the root the directory has a parent, and the files are kept apart. -/
theorem ofInputs_remoteDirectory_sample :
    Location.parse? "hh:/c" = some ⟨some "hh", "", "/c"⟩ ∧
      ∃ (positions : List Place) (plan : List PlanEntry),
        (Plan.ofInputs (Disk.host "r") "lib" [⟨some "hh", "", "/c"⟩]).outcome twins =
          (.ok plan, twins) ∧
        (∀ names, names ∈ positions ↔ names ∈ ([["x", "f"], ["y", "f"]] : List Place)) ∧
        (plan.map PlanEntry.source).Nodup ∧ (plan.map PlanEntry.destination).Nodup := by
  have read : Location.parse? "hh:/c" = some ⟨some "hh", "", "/c"⟩ := by decide
  have wellNamed : twins.files.tree.WellNamed := FileTree.wellNamed_iff.2 (by decide)
  have led : twins.files.locate (Disk.resolve "r" ⟨some "hh", "", "/c"⟩) =
      .ok (["r", "hh", "_", "c"], directory) := by decide
  have ships : twins.files.shipping false (Disk.resolve "r" ⟨some "hh", "", "/c"⟩) =
      ([["x", "f"], ["y", "f"]] : List Place) := by decide
  have looks : ∀ names ∈ twins.files.shipping false (Disk.resolve "r" ⟨some "hh", "", "/c"⟩),
      twins.files.pathExists (RawText.down
        (Disk.resolve "r" ⟨some "hh", "", "/c"⟩) names) = true := by decide
  have files {names : Place} : names ∈ twins.files.shipping false _ ↔ _ :=
    FileSystem.mem_shipping_false_iff wellNamed led
  obtain ⟨positions, plan, planned, -, all, -, -, sources, destinations, apart⟩ :=
    Plan.ofInputs_remoteDirectory "lib" read rfl wellNamed led
      fun names beneath follows => looks names (files.2 ⟨beneath, follows⟩)
  have all' (names : Place) :
      names ∈ positions ↔ names ∈ ([["x", "f"], ["y", "f"]] : List Place) := by
    rw [all, ← ships, files]
  have text : ∀ names ∈ positions, ∀ name ∈ names, name.IsText := fun names hmem =>
    (by decide : ∀ names ∈ ([["x", "f"], ["y", "f"]] : List Place),
      ∀ name ∈ names, name.IsText) names ((all' names).1 hmem)
  exact ⟨read, positions, plan, planned, all', sources.2 (apart text),
    (destinations (by decide)).2 (apart text)⟩

/-- Written without a slash the directory has no parent, and both files go to `lib/f`. -/
theorem remoteDirectory_collides :
    ¬∀ (root logicalRoot raw : String) (disk : Disk) (input : Location) (plan : List PlanEntry),
      Location.parse? raw = some input → input.isRemote = true →
      disk.files.isDirectory (Disk.resolve root input) = true →
      (Plan.ofInputs (Disk.host root) logicalRoot [input]).outcome disk = (.ok plan, disk) →
      (plan.map PlanEntry.destination).Nodup := by
  intro claim
  have planned : (Plan.ofInputs (Disk.host "r") "lib" [⟨some "hh", "", "c"⟩]).outcome twins =
      (.ok [⟨⟨some "hh", "", "c/x/f"⟩, "lib/f"⟩, ⟨⟨some "hh", "", "c/y/f"⟩, "lib/f"⟩], twins) := by
    decide
  have apart := claim "r" "lib" "hh:c" twins _ _ (by decide) rfl (by decide) planned
  exact absurd apart (by decide)

end Sample

end ArtifactStaging
