/-
# ArtifactStaging.Proofs.Staging.LocalDirectories -- where the files of a local directory go

A local directory brings one entry for each file beneath it, in depth-first order
(`FileSystem.shipping_ascending`), of the links for those that the system follows from there.
The path of a file is shown as text and read as a location.  It starts at the root, so it
cannot be taken for a URI whatever the names in it are, and if its names are text it is the
path of that file: names behind the path of a directory lead on from there
(`FileSystem.resolveLast_append`).

`localDirectory_exceptions` are the files for which the source is not the file or which have
no entry, and what has one and is no file.
-/
import ArtifactStaging.Proofs.FileSystem.Descending
import ArtifactStaging.Proofs.Staging.RemoteDirectories

set_option autoImplicit false

namespace ArtifactStaging

open FileSystem PathText

/-! ## Paths that are read as themselves -/

namespace Location

variable {location : Location} {path : String} {names : List String}

/-- Text that is a URI once a slash and something else stand behind it. -/
def Misleads (path : String) : Prop := Uri path.toList ∨ Dangling ⟨none, "", path⟩

/-- A path that starts at the root misleads nobody, since a URI starts with a letter. -/
theorem not_misleads_of_isAbsolute (absolute : isAbsolute path = true) : ¬ Misleads path := by
  have start := isAbsolute_iff.1 absolute
  rintro (uri | ⟨-, scheme, hscheme, -, hcolon⟩)
  · exact uri.head?_ne start
  · rw [show path.toList = scheme ++ [':'] from hcolon] at start
    exact head?_ne_of_isScheme hscheme _ start

/-- The path of a normal location is normal by itself. -/
theorem Normal.plainPath (normal : location.Normal) : Normal ⟨none, "", location.path⟩ :=
  ⟨normal.inhabited, normal.trailing⟩

/-- Behind a path that does not mislead, names are read as the path that they make. -/
theorem parse?_pathBeneath (normal : Normal ⟨none, "", path⟩) (inhabited : names ≠ [])
    (proper : ∀ name ∈ names, name ≠ "" ∧ '/' ∉ name.toList) (honest : ¬ Misleads path) :
    parse? (pathBeneath path names) = some ⟨none, "", pathBeneath path names⟩ := by
  obtain ⟨trimmed, written⟩ := trim_join inhabited proper
  rw [← trimmed] at written
  have hpath : (Location.join ⟨none, "", path⟩ (Text.join "/" names)).path =
      pathBeneath path names := by
    rw [← String.toList_inj, path_join normal written, trimmed,
      Plan.toList_pathBeneath normal rfl inhabited proper]
  have settled : Settled ⟨none, "", path⟩ := .plain normal fun uri => honest (.inl uri)
  have joined : (Location.join ⟨none, "", path⟩ (Text.join "/" names)).Settled :=
    settled.join fun dangles => honest (.inr dangles)
  rw [join_eq_mk, hpath, settled_iff] at joined
  exact joined

end Location

/-! ## Plans of local directories -/

namespace Plan

variable {root logicalRoot raw path : String} {disk : Disk} {input : Location}
  {files : FileSystem} {place names : Place} {attributes : Attributes}

/-- A directory is read as the entries of what ships from it, if what is shown of each path is read
as something. -/
theorem ofDirectory_map {source : Place → Location}
    (led : files.locate path = .ok (place, .directory attributes))
    (sources : ∀ names ∈ files.shipping true path,
      Location.parse (RawText.down path names).lossy = .ok (source names)) :
    ofDirectory files logicalRoot path place =
      .ok ((files.shipping true path).map fun names => ⟨source names, joinRelative logicalRoot
        (Text.join "/" ((lastComponent? path).toList ++ names.shown))⟩) := by
  have read : (files.tree.beneath place).mapM (fun found =>
        ofLocal? files logicalRoot path found.1 found.2) =
      .ok ((files.tree.beneath place).map fun found =>
        if files.counts true (RawText.down path found.1) found.2 then
          some ⟨source found.1, joinRelative logicalRoot
            (Text.join "/" ((lastComponent? path).toList ++ Place.shown found.1))⟩
        else none) := by
    refine Except.mapM_ok_iff.2 (List.forall₂_map_right_iff.2 (List.forall₂_same.2 ?_))
    rintro ⟨names, entry⟩ here
    simp only [ofLocal?, ships_eq]
    by_cases counts : files.counts true (RawText.down path names) entry = true
    · have read := sources names ((mem_shipping_of_locate led).2 ⟨entry, here, counts⟩)
      rw [if_pos counts, if_pos counts, read]
      rfl
    · rw [if_neg counts, if_neg counts]
  refine Except.bind_ok_iff.2 ⟨_, read, congrArg Except.ok ?_⟩
  simp only [shipping, led, List.map_map]
  induction files.tree.beneath place with
  | nil => rfl
  | cons found rest ih =>
      rw [List.map_cons, List.filter_cons, List.filterMap_cons]
      by_cases counts : files.counts true (RawText.down path found.1) found.2 = true
      · simpa [counts] using ih
      · simpa [counts] using ih

/-- What is shown of the path of a file is read as a local path, if the path of the directory does
not mislead. -/
theorem parse_lossy_down (normal : Location.Normal ⟨none, "", path⟩)
    (wellNamed : files.tree.WellNamed) (honest : ¬ Location.Misleads path)
    (ships : names ∈ files.shipping true path) :
    Location.parse (RawText.down path names).lossy =
      .ok ⟨none, "", (RawText.down path names).lossy⟩ := by
  obtain ⟨inhabited, proper⟩ := names_of_mem_shipping wellNamed ships
  rw [RawText.lossy_down]
  exact Location.parse_ok_iff.2
    (Location.parse?_pathBeneath normal inhabited proper honest)

/-- **The files of a local directory.**  Planning a local directory whose path starts at the root
leaves the disk alone and gives exactly one entry for every file beneath it, of the links for those
that the system follows from there, in depth-first order, siblings by the bytes of their names;
there is an entry for nothing else but perhaps special files.  The source is not remote, and its
local path is what is shown of the path of that file: the path itself exactly if the names are text.
Wherever the system takes so long a path, the path leads to the file.  The destination goes on from
the logical root with the last component of the directory's path, if it has one, and what is shown
of the place of the file beneath it. -/
theorem ofInputs_localDirectory (root logicalRoot : String)
    (read : Location.parse? raw = some input) (here : input.localPath? = some path)
    (absolute : isAbsolute path = true) (wellNamed : disk.files.tree.WellNamed)
    (led : disk.files.locate path = .ok (place, .directory attributes)) :
    ∃ (positions : List Place) (plan : List PlanEntry),
      (ofInputs (Disk.host root) logicalRoot [input]).outcome disk = (.ok plan, disk) ∧
      (∀ names, disk.files.FileBeneath place names →
        disk.files.Follows (RawText.down path names) (place ++ names) → names ∈ positions) ∧
      (∀ names ∈ positions, disk.files.FileBeneath place names ∧
          disk.files.Follows (RawText.down path names) (place ++ names) ∨
        disk.files.SpecialBeneath place names) ∧
      positions.Pairwise Place.Precedes ∧ positions.Nodup ∧
      plan.map PlanEntry.destination = positions.map (fun (names : Place) =>
        joinRelative logicalRoot (Text.join "/" ((lastComponent? path).toList ++ names.shown))) ∧
      plan.map (fun entry => entry.source.localPath?) =
        positions.map (fun names => some (RawText.down path names).lossy) ∧
      (∀ names ∈ positions, RawText.of (RawText.down path names).lossy = RawText.down path names ↔
        ∀ name ∈ names, name.IsText) ∧
      (∀ entry ∈ plan, entry.source.isRemote = false) ∧
      ∀ names ∈ positions, checkPath (RawText.down path names) = .ok () →
        (∀ name ∈ names, name.size ≤ longestName) →
        ∃ entry, disk.files.resolveLast (RawText.down path names) =
          .ok (.found (place ++ names) entry) := by
  have normal := Location.normal_of_parse? read
  obtain ⟨hremote, hpath⟩ := Location.localPath?_eq_some.1 here
  have plainPath : Location.Normal ⟨none, "", path⟩ := hpath ▸ normal.plainPath
  have beneath := fun names (ships : names ∈ disk.files.shipping true path) =>
    (mem_shipping_iff led).1 ships
  have planned : entriesOf root logicalRoot disk input =
      .ok ((disk.files.shipping true path).map fun (names : Place) =>
        ⟨⟨none, "", (RawText.down path names).lossy⟩, joinRelative logicalRoot
          (Text.join "/" ((lastComponent? path).toList ++ names.shown))⟩) := by
    rw [entriesOf, here]
    dsimp only
    rw [ofLocalInput, led]
    exact ofDirectory_map led fun names ships => parse_lossy_down plainPath wellNamed
      (Location.not_misleads_of_isAbsolute absolute) ships
  refine ⟨disk.files.shipping true path, _, ofInputs_singleton planned, ?_, ?_,
    shipping_ascending _ _ _, shipping_nodup _ _ _, ?_, ?_, ?_, ?_, ?_⟩
  · intro names file follows
    exact (mem_shipping_iff led).2 ((ships_iff wellNamed led).2 (.inl ⟨file, follows⟩))
  · intro names ships
    exact ((ships_iff wellNamed led).1 (beneath names ships)).imp_right And.right
  · simp only [List.map_map, Function.comp_def]
  · simp only [List.map_map, Function.comp_def]
    rfl
  · intro names ships
    exact RawText.isText_down ((beneath names ships).proper wellNamed) path
  · intro entry hentry
    obtain ⟨names, -, rfl⟩ := List.mem_map.1 hentry
    rfl
  · intro names ships checked short
    have proper := (beneath names ships).proper wellNamed
    obtain ⟨inhabited, way, entry, there, -⟩ := beneath names ships
    have plain : ∀ name ∈ names, name.Plain := fun name hname =>
      ((beneath names ships).wellNamed wellNamed name hname).2
    exact ⟨entry, resolveLast_append led inhabited plain short way there checked
      (RawText.isAbsolute_down proper) (RawText.names_down proper)⟩

end Plan

namespace Sample

/-- A directory `d` with files at two depths, and with links to a file, to a directory, to the
directory itself and to nothing. -/
def burrow : Disk := ⟨⟨treeOf
  [(["d"], directory), (["d", "a"], file [1]), (["d", "b"], directory),
    (["d", "b", "z"], file [2]), (["d", "b.c"], file [3]), (["d", "l"], .link "b/z" 0),
    (["d", "m"], .link "b" 0), (["d", "n"], .link "." 0), (["d", "o"], .link "gone" 0)],
  [], 7, 1⟩, []⟩

/-- The names that lead to its files. -/
def burrowFiles : List Place := [["a"], ["b", "z"], ["b.c"], ["l"]]

theorem wellNamed_burrow : burrow.files.tree.WellNamed :=
  FileTree.wellNamed_iff.2 (by decide)

/-- The file in `b` comes before its sibling `b.c`, and only the link to a file counts. -/
theorem ofInputs_localDirectory_sample :
    Location.parse? "/d" = some (here "/d") ∧
      ∃ (positions : List Place) (plan : List PlanEntry),
        (Plan.ofInputs (Disk.host "r") "lib" [here "/d"]).outcome burrow = (.ok plan, burrow) ∧
        positions.Pairwise Place.Precedes ∧ (∀ names, names ∈ positions ↔ names ∈ burrowFiles) ∧
        plan.map PlanEntry.destination = ["lib/d/a", "lib/d/b/z", "lib/d/b.c", "lib/d/l"] := by
  have read : Location.parse? "/d" = some (here "/d") := by decide
  have here? : (here "/d").localPath? = some "/d" := by decide
  have led : burrow.files.locate "/d" = .ok (["d"], directory) := by decide
  have ships : burrow.files.shipping true "/d" = burrowFiles := by decide
  have files : burrow.files.shipping false "/d" = burrowFiles := by decide
  obtain ⟨positions, plan, planned, complete, sound, order, -⟩ :=
    Plan.ofInputs_localDirectory "r" "lib" read here? (by decide) wellNamed_burrow led
  have concrete : ((Plan.ofInputs (Disk.host "r") "lib" [here "/d"]).outcome burrow).1.toOption.map
      (·.map PlanEntry.destination) = some ["lib/d/a", "lib/d/b/z", "lib/d/b.c", "lib/d/l"] := by
    decide
  rw [planned] at concrete
  refine ⟨read, positions, plan, planned, order, fun names => ⟨fun hmem => ?_, fun hmem => ?_⟩,
    Option.some.inj concrete⟩
  · rw [← ships, mem_shipping_iff led, ships_iff wellNamed_burrow led]
    exact (sound names hmem).imp_right (⟨rfl, ·⟩)
  · rw [← files, mem_shipping_false_iff wellNamed_burrow led] at hmem
    exact complete names hmem.1 hmem.2

/-- Through the link `s` to its own directory, as often as a link may that is the first one on a
path, and then to the file `f`. -/
def winding : RawText := String.join (List.replicate 39 "s/") ++ "f"

/-- A link `b` to a directory `d` with a file `f`, a link `s` to `d` itself and a winding link to
the file. -/
def coil : Disk := ⟨⟨treeOf
  [(["b"], .link "d" 0), (["d"], directory), (["d", "f"], file [49]),
    (["d", "l"], .link winding 0),
    (["d", "s"], .link "." 0)], [], 7, 1⟩, []⟩

/-- A directory with a pipe and with a file whose name is no text. -/
def oddments : Disk := ⟨⟨treeOf
  [(["d"], directory), (["d", "p"], .special .pipe ⟨5, Entry.newFileMode⟩),
    (["d", ⟨[0xFF]⟩], file [49])], [], 7, 1⟩, []⟩

/-- One name leads to a file of a directory if there is one by that name. -/
theorem fileBeneath_singleton {fs : FileSystem} {place : Place} {name : RawText} {entry : Entry}
    (directory : fs.tree.isDirectory place = true) (fileAt : fs.FileAt (place ++ [name]) entry) :
    fs.FileBeneath place [name] := by
  refine ⟨List.cons_ne_nil _ _, fun before above strict => ?_, entry, fileAt⟩
  rcases List.prefix_cons_iff.1 above with rfl | ⟨rest, rfl, hrest⟩
  · rwa [List.append_nil]
  · exact absurd (by rw [List.prefix_nil.1 hrest]) strict

theorem wellNamed_coil : coil.files.tree.WellNamed := FileTree.wellNamed_iff.2 (by decide)

theorem fileBeneath_coil : coil.files.FileBeneath ["d"] ["l"] := by
  have link : coil.files.tree.at? ["d", "l"] = some (.link winding 0) := by decide
  have leads : followWithin coil.files.tree true linkBudget (Route.ofPath ["d"] winding) =
      .ok (.found ["d", "f"] (numbered 1 (file [49]))) := by decide +kernel
  exact fileBeneath_singleton (by decide) (.link link leads)

/-- A link to a file has no entry where the links on the way to its directory make it one too many;
the source of a file is not the file when its name is no text; and a pipe has an entry. -/
theorem localDirectory_exceptions :
    (¬∀ (root logicalRoot raw path : String) (disk : Disk) (input : Location) (place : Place)
        (attributes : Attributes) (plan : List PlanEntry),
      Location.parse? raw = some input → input.localPath? = some path →
      isAbsolute path = true → disk.files.tree.WellNamed →
      disk.files.locate path = .ok (place, .directory attributes) →
      (Plan.ofInputs (Disk.host root) logicalRoot [input]).outcome disk = (.ok plan, disk) →
      ∀ names, disk.files.FileBeneath place names →
        joinRelative logicalRoot (Text.join "/" ((lastComponent? path).toList ++ names.shown)) ∈
          plan.map PlanEntry.destination) ∧
    (Plan.ofInputs (Disk.host "r") "lib" [here "/d"]).outcome oddments =
      (.ok [⟨here "/d/p", "lib/d/p"⟩, ⟨here "/d/\uFFFD", "lib/d/\uFFFD"⟩], oddments) ∧
    oddments.files.FileBeneath ["d"] [⟨[0xFF]⟩] ∧
    RawText.of "/d/\uFFFD" ≠ RawText.down "/d" [⟨[0xFF]⟩] ∧
    oddments.files.tree.at? ["d", "p"] = some (.special .pipe ⟨5, Entry.newFileMode⟩) := by
  refine ⟨fun claim => ?_, by decide, ?_, by decide, by decide⟩
  · have planned : (Plan.ofInputs (Disk.host "r") "lib" [here "/b"]).outcome coil =
        (.ok [⟨here "/b/f", "lib/b/f"⟩], coil) := by decide +kernel
    have led : coil.files.locate "/b" = .ok (["d"], directory) := by decide
    have listed := claim "r" "lib" "/b" "/b" coil _ _ _ _ (by decide) (by decide)
      (by decide) wellNamed_coil led planned ["l"] fileBeneath_coil
    exact absurd listed (by decide)
  · exact fileBeneath_singleton (by decide)
      (.file (by decide : _ = some (numbered 1 (file [49]))))

end Sample

end ArtifactStaging
