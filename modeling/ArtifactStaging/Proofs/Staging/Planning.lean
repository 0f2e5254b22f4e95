/-
# ArtifactStaging.Proofs.Staging.Planning -- what a plan on a disk holds

On a disk planning only looks: `ofInputs_disk_ok_iff` says that the disk is left
alone and that the plan is the entries of its inputs, one after the other, each
decided by the disk and the input alone (`entriesOf`).

Which entries an input brings into a plan is `Brings`.  An input that is no directory
brings one.  A directory brings an entry for every chain of names beneath it that
ships (`positions`), that is, which ends in a file or in a link to one, or, if the
input is local, in a special file; the entry is decided by the input and what is
shown of the names (`entryAt?`).  `mem_ofInputs_disk` puts
both together: a plan is, as a set, what its inputs bring.
-/
import ArtifactStaging.Proofs.FileSystem.FilesBeneath
import ArtifactStaging.Proofs.Run
import ArtifactStaging.Storage.Disk

set_option autoImplicit false

namespace ArtifactStaging

/-! ## What ships from a directory -/

namespace FileSystem

/-- The path of what `names` lead to beneath a directory. -/
def pathBeneath (directory : String) (names : List String) : String :=
  PathText.append directory (Text.join "/" names)

/-- Whether a file, a link to one and perhaps a special file is what `path` leads to. -/
def counts (specials : Bool) (fs : FileSystem) (path : RawText) : Entry → Bool
  | .file .. => true
  | .directory _ => false
  | .link .. => fs.isFile path
  | .special .. => specials

/-- The names that lead to what counts beneath the directory that a path leads to. -/
def shipping (specials : Bool) (fs : FileSystem) (path : String) : List Place :=
  match fs.locate path with
  | .ok (place, .directory _) =>
      ((fs.tree.beneath place).filter fun (names, entry) =>
        fs.counts specials (RawText.down path names) entry).map Prod.fst
  | _ => []

variable {specials : Bool} {fs grown : FileSystem} {path : String} {names : Place}

theorem mem_shipping_of_locate {place : Place} {attributes : Attributes}
    (led : fs.locate path = .ok (place, .directory attributes)) :
    names ∈ fs.shipping specials path ↔ ∃ entry, (names, entry) ∈ fs.tree.beneath place ∧
      fs.counts specials (RawText.down path names) entry = true := by
  simp [shipping, led]

theorem isDirectory_of_mem_shipping (h : names ∈ fs.shipping specials path) :
    fs.isDirectory path = true := by
  unfold shipping at h
  split at h
  · next place attributes led => exact isDirectory_iff.2 ⟨place, attributes, led⟩
  · cases h

theorem mem_shipping :
    names ∈ fs.shipping specials path ↔
      ∃ place attributes entry, fs.locate path = .ok (place, .directory attributes) ∧
        names ≠ [] ∧ fs.tree.at? (place ++ names) = some entry ∧
        fs.counts specials (RawText.down path names) entry = true := by
  constructor
  · intro h
    obtain ⟨place, attributes, led⟩ := isDirectory_iff.1 (isDirectory_of_mem_shipping h)
    obtain ⟨entry, hmem, leads⟩ := (mem_shipping_of_locate led).1 h
    obtain ⟨hnames, hat⟩ := FileTree.mem_beneath.1 hmem
    exact ⟨place, attributes, entry, led, hnames, hat, leads⟩
  · rintro ⟨place, attributes, entry, led, hnames, hat, leads⟩
    exact (mem_shipping_of_locate led).2 ⟨entry, FileTree.mem_beneath.2 ⟨hnames, hat⟩, leads⟩

/-- What is shown of names that ship are names that lead down, and there are some. -/
theorem shown_of_mem_shipping (wellNamed : fs.tree.WellNamed)
    (h : names ∈ fs.shipping specials path) :
    names.shown ≠ [] ∧
      ∀ name ∈ names.shown, name ≠ "" ∧ '/' ∉ name.toList ∧ PathText.Plain name := by
  obtain ⟨place, attributes, entry, -, inhabited, hat, -⟩ := mem_shipping.1 h
  exact ⟨by simpa [Place.shown] using inhabited, wellNamed.shown hat⟩

/-- What is shown of names that ship can stand in a path: no name is empty or has a slash. -/
theorem names_of_mem_shipping (wellNamed : fs.tree.WellNamed)
    (h : names ∈ fs.shipping specials path) :
    names.shown ≠ [] ∧ ∀ name ∈ names.shown, name ≠ "" ∧ '/' ∉ name.toList := by
  obtain ⟨inhabited, named⟩ := shown_of_mem_shipping wellNamed h
  exact ⟨inhabited, fun name hname => ⟨(named name hname).1, (named name hname).2.1⟩⟩

/-- What counts goes on to count. -/
theorem Grows.counts (grows : fs.Grows grown) {raw : RawText} {entry entry' : Entry}
    (same : entry.SameKind entry') (h : fs.counts specials raw entry = true) :
    grown.counts specials raw entry' = true := by
  cases entry with
  | file =>
      obtain ⟨_, _, rfl⟩ := Entry.sameKind_file.1 same
      exact h
  | directory => cases h
  | link =>
      obtain ⟨_, rfl⟩ := Entry.sameKind_link.1 same
      exact grows.isFile h
  | special =>
      obtain ⟨_, rfl⟩ := Entry.sameKind_special.1 same
      exact h

/-- What ships goes on to ship. -/
theorem Grows.shipping (grows : fs.Grows grown) (h : names ∈ fs.shipping specials path) :
    names ∈ grown.shipping specials path := by
  obtain ⟨place, attributes, entry, led, hnames, hat, leads⟩ := mem_shipping.1 h
  obtain ⟨_, led', hkind⟩ := grows.locate led
  obtain ⟨attributes', rfl⟩ := Entry.sameKind_directory.1 hkind
  obtain ⟨entry', hat', hkind'⟩ := grows.tree.stays _ _ hat
  exact mem_shipping.2
    ⟨place, attributes', entry', led', hnames, hat', grows.counts hkind' leads⟩

end FileSystem

namespace Disk

open FileSystem

variable {root : String} {disk : Disk} {location : Location}

theorem answer_ok_iff {α : Type} {path : String} {result : Except IoCause α} {a : α} :
    answer path result = .ok a ↔ result = .ok a :=
  Except.mapError_ok_iff

theorem probe_directory {found : Option Entry} (h : disk.probe root location = .ok found) :
    found.any Entry.isDirectory = disk.files.isDirectory (resolve root location) := by
  unfold probe at h
  unfold FileSystem.isDirectory
  cases hentry : disk.files.entry (resolve root location) with
  | ok entry =>
      rw [hentry] at h
      cases h
      rfl
  | error cause =>
      rw [hentry] at h
      dsimp only at h
      split at h <;> cases h
      rfl

/-- A recursive listing shows what counts, special files apart. -/
theorem lists_eq (files : FileSystem) (path : RawText) (entry : Entry) :
    lists files path entry = files.counts false path entry := by
  cases entry <;> rfl

/-- A recursive listing of a directory looks at each path that ships from it, in order. -/
theorem forall₂_of_listFiles {place : Place} {attributes : Attributes} {files : List FileStatus}
    (h : disk.listFiles root location = .ok files)
    (led : disk.files.locate (resolve root location) = .ok (place, .directory attributes)) :
    List.Forall₂ (fun (names : Place) status => ∃ entry,
        disk.files.entry (RawText.down (resolve root location) names) = .ok entry ∧
          status = statusOf (location.join (Text.join "/" names.shown)) entry)
      (disk.files.shipping false (resolve root location)) files := by
  simp only [listFiles, Except.bind_ok_iff, answer_ok_iff, led] at h
  obtain ⟨_, heq, h⟩ := h
  cases heq
  simp only [Entry.isDirectory, if_true] at h
  have walked : ((disk.files.tree.beneath place).filterMap fun found =>
        if lists disk.files (RawText.down (resolve root location) found.1) found.2 then
          some (location.join (RawText.join found.1).lossy,
            RawText.down (resolve root location) found.1)
        else none) =
      (disk.files.shipping false (resolve root location)).map fun (names : Place) =>
        (location.join (Text.join "/" names.shown),
          RawText.down (resolve root location) names) := by
    simp only [shipping, led, List.map_map]
    induction disk.files.tree.beneath place with
    | nil => rfl
    | cons found rest ih =>
        rw [List.filterMap_cons, List.filter_cons, ih, lists_eq, RawText.lossy_join]
        by_cases counts : disk.files.counts false
            (RawText.down (resolve root location) found.1) found.2 = true
        · rw [if_pos counts, if_pos counts]
          rfl
        · rw [if_neg counts, if_neg counts]
  rw [walked] at h
  refine (List.forall₂_map_left_iff.1 (Except.mapM_ok_iff.1 h)).imp ?_
  intro names status shown
  obtain ⟨entry, looked, heq⟩ := Except.bind_ok_iff.1 shown
  exact ⟨entry, answer_ok_iff.1 looked, (Except.ok.inj heq).symm⟩

/-- A recursive listing of a directory shows the paths of what ships from it, in order. -/
theorem paths_of_listFiles {files : List FileStatus}
    (h : disk.listFiles root location = .ok files)
    (directory : disk.files.isDirectory (resolve root location) = true) :
    files.map FileStatus.path =
      (disk.files.shipping false (resolve root location)).map fun names =>
        location.join (Text.join "/" names.shown) := by
  obtain ⟨place, attributes, led⟩ := isDirectory_iff.1 directory
  have shows := forall₂_of_listFiles h led
  generalize disk.files.shipping false (resolve root location) = positions at shows ⊢
  clear h
  induction shows with
  | nil => rfl
  | cons shown _ ih =>
      obtain ⟨entry, -, rfl⟩ := shown
      rw [List.map_cons, List.map_cons, ih]
      rfl

theorem mem_paths_of_listFiles {files : List FileStatus} {path : Location}
    (h : disk.listFiles root location = .ok files)
    (directory : disk.files.isDirectory (resolve root location) = true) :
    path ∈ files.map FileStatus.path ↔
      ∃ names ∈ disk.files.shipping false (resolve root location),
        location.join (Text.join "/" names.shown) = path := by
  rw [paths_of_listFiles h directory, List.mem_map]

/-- A recursive listing shows locations joined to the one that is listed, or that one itself. -/
theorem path_of_listFiles {files : List FileStatus}
    (h : disk.listFiles root location = .ok files) :
    ∀ status ∈ files, ∃ inner, status.path = location.join inner := by
  intro status hstatus
  obtain ⟨⟨place, entry⟩, led, hrest⟩ := Except.bind_ok_iff.1 h
  rw [answer_ok_iff] at led
  by_cases directory : disk.files.isDirectory (resolve root location) = true
  · obtain ⟨names, -, hpath⟩ :=
      (mem_paths_of_listFiles h directory).1 (List.mem_map_of_mem hstatus)
    exact ⟨_, hpath.symm⟩
  · have hentry : entry.isDirectory = false := by
      cases entry with
      | directory attributes =>
          exact absurd (FileSystem.isDirectory_iff.2 ⟨place, attributes, led⟩) directory
      | file => rfl
      | link => rfl
      | special => rfl
    simp only [hentry, Bool.false_eq_true, if_false, Except.ok.injEq] at hrest
    rw [← hrest, List.mem_singleton] at hstatus
    exact ⟨"", by rw [hstatus]; rfl⟩

/-- A directory is listed if whatever ships from it can be looked at. -/
theorem exists_listFiles (directory : disk.files.isDirectory (resolve root location) = true)
    (reached : ∀ names ∈ disk.files.shipping false (resolve root location),
      disk.files.pathExists (RawText.down (resolve root location) names) = true) :
    ∃ files, disk.listFiles root location = .ok files := by
  obtain ⟨place, attributes, led⟩ := isDirectory_iff.1 directory
  rw [listFiles, led]
  refine Except.exists_mapM_ok ?_
  rintro ⟨child, path⟩ found
  obtain ⟨⟨names, entry⟩, here, shown⟩ := List.mem_filterMap.1 found
  dsimp only at shown
  split at shown
  · next leads =>
    cases shown
    rw [lists_eq] at leads
    have reaches := reached names ((mem_shipping_of_locate led).2 ⟨entry, here, leads⟩)
    cases looked : disk.files.entry (RawText.down (resolve root location) names) with
    | error cause => simp [pathExists, looked, Except.toOption] at reaches
    | ok entry =>
        refine ⟨_, Except.bind_ok_iff.2 ⟨entry, answer_ok_iff.2 looked, rfl⟩⟩
  · cases shown

end Disk

namespace Plan

open FileSystem

variable {root logicalRoot : String} {disk world : Disk} {input : Location}
  {inputs : List Location} {plan part : List PlanEntry} {entry : PlanEntry}

/-! ## One input -/

/-- The entries of one input on a disk. -/
def entriesOf (root logicalRoot : String) (disk : Disk) (input : Location) :
    Except StorageError (List PlanEntry) :=
  match input.localPath? with
  | some path => ofLocalInput disk.files logicalRoot input path
  | none => do
      let found ← disk.probe root input
      if found.any Entry.isDirectory then
        let files ← disk.listFiles root input
        .ok (files.map (ofRemote logicalRoot input.parent?))
      else .ok [single logicalRoot input]

/-- Planning one input leaves the disk alone. -/
theorem outcome_ofInput_disk :
    (ofInput (Disk.host root) logicalRoot input).outcome disk =
      (entriesOf root logicalRoot disk input, disk) := by
  unfold ofInput entriesOf
  cases input.localPath? with
  | some path => rfl
  | none =>
      rw [Run.outcome_bind]
      simp only [Disk.host, Disk.storage, Run.outcome_ofFunction]
      cases disk.probe root input with
      | error error => rfl
      | ok found =>
          dsimp only [Except.map]
          change _ = ((if found.any Entry.isDirectory = true then _ else _ : Except _ _), disk)
          split
          · rw [Run.outcome_bind, Run.outcome_ofFunction]
            cases disk.listFiles root input <;> rfl
          · rfl

/-- The entry of what `names` lead to beneath an input that is a directory. -/
def entryAt? (logicalRoot : String) (input : Location) (names : List String) :
    Option PlanEntry :=
  match input.localPath? with
  | some path =>
      (Location.parse (pathBeneath path names)).toOption.map fun source =>
        ⟨source, joinRelative logicalRoot
          (Text.join "/" ((PathText.lastComponent? path).toList ++ names))⟩
  | none =>
      let child := input.join (Text.join "/" names)
      some ⟨child, joinRelative logicalRoot
        ((input.parent?.bind (·.relativize? child)).getD child.name)⟩

/-- What ships from a local directory is what counts, special files included. -/
theorem ships_eq (files : FileSystem) (path : RawText) (entry : Entry) :
    ships files path entry = files.counts true path entry := by
  cases entry <;> rfl

theorem ofLocal?_ok_iff {files : FileSystem} {path : String} {names : Place} {found : Entry}
    (local? : input.localPath? = some path) :
    ofLocal? files logicalRoot path names found = .ok (some entry) ↔
      files.counts true (RawText.down path names) found = true ∧
        entryAt? logicalRoot input names.shown = some entry := by
  simp only [ofLocal?, entryAt?, local?, pathBeneath, ships_eq, RawText.lossy_down,
    Place.shown]
  split
  · next leads =>
    cases Location.parse (PathText.append path (Text.join "/" (names.map RawText.lossy))) <;>
      simp [leads, bind, Except.bind, Except.toOption]
  · next leads => simp [leads]

theorem mem_ofDirectory {files : FileSystem} {path : String} {place : Place}
    {attributes : Attributes} (local? : input.localPath? = some path)
    (led : files.locate path = .ok (place, .directory attributes))
    (h : ofDirectory files logicalRoot path place = .ok part) :
    entry ∈ part ↔ ∃ names ∈ files.shipping true path,
      entryAt? logicalRoot input names.shown = some entry := by
  obtain ⟨found, hfound, heq⟩ := Except.bind_ok_iff.1 h
  cases heq
  simp only [List.mem_filterMap, id, exists_eq_right, Except.mem_of_mapM_ok hfound, Prod.exists,
    ofLocal?_ok_iff local?, mem_shipping_of_locate led]
  constructor
  · rintro ⟨names, found, hmem, leads, hentry⟩
    exact ⟨names, ⟨found, hmem, leads⟩, hentry⟩
  · rintro ⟨names, ⟨found, hmem, leads⟩, hentry⟩
    exact ⟨names, found, hmem, leads, hentry⟩

/-- The names that lead to what ships from an input on a disk: special files do, unless the input
is remote. -/
def positions (root : String) (disk : Disk) (input : Location) : List Place :=
  disk.files.shipping (!input.isRemote) (Disk.resolve root input)

/-- An input on a disk brings an entry into a plan. -/
def Brings (root logicalRoot : String) (disk : Disk) (input : Location) (entry : PlanEntry) :
    Prop :=
  if disk.files.isDirectory (Disk.resolve root input) then
    ∃ names ∈ positions root disk input, entryAt? logicalRoot input names.shown = some entry
  else entry = single logicalRoot input

/-- The entries of an input are those that it brings. -/
theorem mem_entriesOf (h : entriesOf root logicalRoot disk input = .ok part) :
    entry ∈ part ↔ Brings root logicalRoot disk input entry := by
  unfold Brings
  unfold entriesOf at h
  split at h
  · next path local? =>
    have hresolve : Disk.resolve root input = path := by simp [Disk.resolve, local?]
    rw [positions, (Location.localPath?_eq_some.1 local?).1, hresolve]
    unfold ofLocalInput at h
    split at h
    · next place attributes led =>
      rw [if_pos (isDirectory_iff.2 ⟨place, attributes, led⟩)]
      exact mem_ofDirectory local? led h
    · next other =>
      cases h
      rw [if_neg fun directory => by
        obtain ⟨place, attributes, led⟩ := isDirectory_iff.1 directory
        exact other place attributes led]
      exact List.mem_singleton
  · next remote =>
    obtain ⟨found, probed, h⟩ := Except.bind_ok_iff.1 h
    rw [Disk.probe_directory probed] at h
    split at h
    · next directory =>
      obtain ⟨files, listed, heq⟩ := Except.bind_ok_iff.1 h
      cases heq
      rw [if_pos directory, positions, Location.localPath?_eq_none.1 remote]
      simp only [entryAt?, remote, Option.some.injEq]
      constructor
      · intro hmem
        obtain ⟨status, hstatus, rfl⟩ := List.mem_map.1 hmem
        obtain ⟨names, ships, hpath⟩ :=
          (Disk.mem_paths_of_listFiles listed directory).1 (List.mem_map_of_mem hstatus)
        exact ⟨names, ships, by rw [hpath]; rfl⟩
      · rintro ⟨names, ships, rfl⟩
        obtain ⟨status, hstatus, hpath⟩ := List.mem_map.1
          ((Disk.mem_paths_of_listFiles listed directory).2 ⟨names, ships, rfl⟩)
        exact List.mem_map.2 ⟨status, hstatus, by rw [← hpath]; rfl⟩
    · next other =>
      cases h
      rw [if_neg other]
      exact List.mem_singleton

/-- What an input brings it still brings when the files have grown, unless it has become a
directory. -/
theorem Brings.of_grows (grows : disk.files.Grows world.files)
    (kind : world.files.isDirectory (Disk.resolve root input) = true →
      disk.files.isDirectory (Disk.resolve root input) = true)
    (h : Brings root logicalRoot disk input entry) :
    Brings root logicalRoot world input entry := by
  unfold Brings at h ⊢
  by_cases directory : disk.files.isDirectory (Disk.resolve root input) = true
  · rw [if_pos directory] at h
    rw [if_pos (grows.isDirectory directory)]
    obtain ⟨names, ships, hentry⟩ := h
    exact ⟨names, Grows.shipping grows ships, hentry⟩
  · rw [if_neg directory] at h
    rw [if_neg fun directory' => directory (kind directory')]
    exact h

/-- An entry that an input appears to bring only when the files have grown comes from names
that did not ship before, unless the input has become a directory. -/
theorem Brings.of_grown (grows : disk.files.Grows world.files)
    (kind : world.files.isDirectory (Disk.resolve root input) = true →
      disk.files.isDirectory (Disk.resolve root input) = true)
    (h : Brings root logicalRoot world input entry) :
    Brings root logicalRoot disk input entry ∨
      ∃ names ∈ positions root world input, names ∉ positions root disk input ∧
        entryAt? logicalRoot input names.shown = some entry := by
  unfold Brings at h ⊢
  by_cases directory : disk.files.isDirectory (Disk.resolve root input) = true
  · rw [if_pos (grows.isDirectory directory)] at h
    rw [if_pos directory]
    obtain ⟨names, hnames, hentry⟩ := h
    by_cases shipped : names ∈ positions root disk input
    · exact .inl ⟨names, shipped, hentry⟩
    · exact .inr ⟨names, hnames, shipped, hentry⟩
  · rw [if_neg fun directory' => directory (kind directory')] at h
    rw [if_neg directory]
    exact .inl h

/-! ## Several inputs -/

/-- A plan is the entries of its inputs, one after the other. -/
theorem ofInputs_disk_ok_iff :
    (ofInputs (Disk.host root) logicalRoot inputs).outcome disk = (.ok plan, world) ↔
      world = disk ∧ ∃ parts, inputs.mapM (entriesOf root logicalRoot disk) = .ok parts ∧
        plan = parts.flatten := by
  simp only [Except.mapM_ok_iff]
  induction inputs generalizing plan with
  | nil =>
      rw [ofInputs, Run.pure_ok_iff]
      simp [and_comm]
  | cons input rest ih =>
      simp only [ofInputs, Run.bind_ok_iff, outcome_ofInput_disk, Run.pure_ok_iff,
        List.forall₂_cons_left_iff]
      constructor
      · rintro ⟨part, _, heq, others, _, rest, rfl, rfl⟩
        obtain ⟨read, rfl⟩ := Prod.mk.inj heq
        obtain ⟨rfl, parts, hparts, rfl⟩ := ih.1 rest
        exact ⟨rfl, part :: parts, ⟨part, parts, read, hparts, rfl⟩, rfl⟩
      · rintro ⟨rfl, _, ⟨part, parts, read, hparts, rfl⟩, rfl⟩
        exact ⟨part, world, by rw [read], parts.flatten, world,
          ih.2 ⟨rfl, parts, hparts, rfl⟩, rfl, rfl⟩

/-- The plan of one input is its entries. -/
theorem ofInputs_singleton (h : entriesOf root logicalRoot disk input = .ok part) :
    (ofInputs (Disk.host root) logicalRoot [input]).outcome disk = (.ok part, disk) :=
  ofInputs_disk_ok_iff.2
    ⟨rfl, [part], Except.mapM_ok_iff.2 (.cons h .nil), List.flatten_singleton.symm⟩

/-- What is in a plan is what some input brings. -/
theorem mem_ofInputs_disk
    (h : (ofInputs (Disk.host root) logicalRoot inputs).outcome disk = (.ok plan, world)) :
    entry ∈ plan ↔ ∃ input ∈ inputs, Brings root logicalRoot disk input entry := by
  obtain ⟨-, parts, hparts, rfl⟩ := ofInputs_disk_ok_iff.1 h
  rw [List.mem_flatten]
  constructor
  · rintro ⟨part, hpart, hentry⟩
    obtain ⟨input, hinput, read⟩ := (Except.mem_of_mapM_ok hparts).1 hpart
    exact ⟨input, hinput, (mem_entriesOf read).1 hentry⟩
  · rintro ⟨input, hinput, brings⟩
    obtain ⟨part, read⟩ := Except.ok_of_mapM_ok hparts hinput
    exact ⟨part, (Except.mem_of_mapM_ok hparts).2 ⟨input, hinput, read⟩,
      (mem_entriesOf read).2 brings⟩

end Plan

end ArtifactStaging
