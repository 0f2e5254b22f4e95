/-
# ArtifactStaging.Proofs.Staging.LocalSources -- which file the source of a local file is

The path of a file in a local directory is shown as text and read again.  What comes back is
what is shown, unless the path of the directory `Misleads`: it is a URI itself, as the path
`ab:c` of the location `file:ab:c`, or it is `Dangling`, as `ab:`, which is a path, since nothing
stands behind the colon, while `ab:/f` is a URI.  Then every file in the directory is taken for
what the URI says (`Uri.reads`): for a remote one, or with the scheme `file` for another local
one.

What is shown is the path of the file only if its names are text, so a source is the file that was
walked to exactly if they are and the path of the directory does not mislead.
`ofInputs_localSources` says so of every local input; `localSources_misread` is a directory whose
files are taken for remote ones.
-/
import ArtifactStaging.Proofs.Staging.LocalDirectories

set_option autoImplicit false

namespace ArtifactStaging

open Text

/-! ## Texts that are read as something else -/

namespace Location

variable {location : Location} {raw path : String}

/-- A URI is read with a scheme, and its path is not the text that was read. -/
theorem Uri.reads (uri : Uri raw.toList) (read : parse? raw = some location) :
    location.scheme ≠ none ∧ location.path ≠ raw := by
  have start := uri.head?_ne
  have mark {scheme rest : List Char} (hscheme : isScheme scheme = true)
      (hraw : raw.toList = scheme ++ ':' :: '/' :: '/' :: rest) :
      location.scheme ≠ none ∧ location.path ≠ raw := by
    obtain rfl := Option.some.inj ((parse?_mark hraw hscheme).symm.trans read)
    -- The path starts with a slash, and no URI does.
    refine ⟨nofun, fun same => start ?_⟩
    rw [← same, String.toList_ofList, head?_normalize, head?_authorityAndPath]
  generalize hraw : raw.toList = text at uri
  cases uri with
  | mark hscheme rest => exact mark hscheme hraw
  | @colon scheme rest hscheme hlong hrest =>
      by_cases hmark : ∃ tail, rest = '/' :: '/' :: tail
      · obtain ⟨tail, rfl⟩ := hmark
        exact mark hscheme hraw
      · obtain rfl := Option.some.inj
          ((parse?_colon hraw hscheme hlong hrest (not_exists.1 hmark)).symm.trans read)
        refine ⟨nofun, fun same => ?_⟩
        -- The path is a part of what stands behind the scheme, and shorter than the text.
        obtain ⟨slashes, hslashes⟩ := normalize_append rest
        have whole := congrArg List.length hraw
        have part := congrArg List.length hslashes
        rw [← same, String.toList_ofList, List.length_append, List.length_cons] at whole
        rw [List.length_append] at part
        omega

/-- A path without a colon misleads nobody. -/
theorem not_misleads_of_notMem (h : ':' ∉ path.toList) : ¬ Misleads path := by
  rintro (uri | ⟨-, scheme, -, -, hcolon⟩)
  · generalize path.toList = text at h uri
    cases uri with
    | mark hscheme rest => simp at h
    | colon hscheme hlong hrest => simp at h
  · rw [show path.toList = scheme ++ [':'] from hcolon] at h
    simp at h

/-- Behind a path that misleads, names make a URI. -/
theorem uri_pathBeneath {names : List String} (normal : Normal ⟨none, "", path⟩)
    (inhabited : names ≠ []) (proper : ∀ name ∈ names, name ≠ "" ∧ '/' ∉ name.toList)
    (misleads : Misleads path) : Uri (FileSystem.pathBeneath path names).toList := by
  have hroot : ¬ isRoot ⟨none, "", path⟩ = true := by
    intro hroot
    obtain rfl : path = "/" := eq_of_beq hroot
    rcases misleads with uri | ⟨-, scheme, -, -, hcolon⟩
    · exact uri.head?_ne rfl
    · exact absurd (congrArg List.getLast? hcolon) (by simp)
  rw [Plan.toList_pathBeneath normal rfl inhabited proper, lead, if_neg hroot]
  rcases misleads with uri | ⟨-, scheme, hscheme, hlong, hcolon⟩
  · exact (uri.append _).append _
  · rw [hcolon]
    simpa using Uri.colon hscheme hlong (List.cons_ne_nil '/' (Text.join "/" names).toList)

end Location

/-! ## The sources of a plan -/

namespace Plan

open FileSystem PathText

variable {root logicalRoot raw path : String} {disk world : Disk} {input : Location}
  {inputs : List Location} {plan part : List PlanEntry} {place : Place} {attributes : Attributes}

/-- The source of every file in a local directory is what is shown of its path, read as a
location. -/
theorem entriesOf_localDirectory (root logicalRoot : String) (here : input.localPath? = some path)
    (normal : Location.Normal ⟨none, "", path⟩) (wellNamed : disk.files.tree.WellNamed)
    (led : disk.files.locate path = .ok (place, .directory attributes)) :
    ∃ part, entriesOf root logicalRoot disk input = .ok part ∧
      List.Forall₂ (fun names entry => names ∈ disk.files.shipping true path ∧
        Location.parse? (RawText.down path names).lossy = some entry.source)
        (disk.files.shipping true path) part := by
  have read : ∀ names ∈ disk.files.shipping true path,
      Location.parse? (RawText.down path names).lossy =
        some ((Location.parse? (RawText.down path names).lossy).getD default) := by
    intro names ships
    obtain ⟨inhabited, proper⟩ := names_of_mem_shipping wellNamed ships
    have written : (RawText.down path names).lossy ≠ "" := by
      intro empty
      have text := toList_pathBeneath normal rfl inhabited proper
      rw [pathBeneath, Place.shown, ← RawText.lossy_down, empty] at text
      exact absurd text.symm (by simp [Location.lead_ne_nil])
    obtain ⟨source, hsource⟩ := Location.exists_parse? written
    rw [hsource]
    rfl
  refine ⟨(disk.files.shipping true path).map fun (names : Place) =>
    ⟨(Location.parse? (RawText.down path names).lossy).getD default, joinRelative logicalRoot
      (Text.join "/" ((lastComponent? path).toList ++ names.shown))⟩, ?_, ?_⟩
  · rw [entriesOf, here]
    dsimp only
    rw [ofLocalInput, led]
    exact ofDirectory_map led fun names ships => Location.parse_ok_iff.2 (read names ships)
  · exact List.forall₂_map_right_iff.2 (List.forall₂_same.2 fun names ships =>
      ⟨ships, read names ships⟩)

/-- The entries of an input stand together in every plan that it is an input of. -/
theorem infix_of_ofInputs (h : entriesOf root logicalRoot disk input = .ok part)
    (member : input ∈ inputs)
    (planned : (ofInputs (Disk.host root) logicalRoot inputs).outcome disk = (.ok plan, world)) :
    part <:+: plan := by
  obtain ⟨-, parts, hparts, rfl⟩ := ofInputs_disk_ok_iff.1 planned
  obtain ⟨other, read⟩ := Except.ok_of_mapM_ok hparts member
  obtain rfl := Except.ok.inj (h.symm.trans read)
  exact List.infix_of_mem_flatten ((Except.mem_of_mapM_ok hparts).2 ⟨input, member, read⟩)

/-- **The sources of local files.**  Planning a local input never fails and leaves the disk alone.
An input that is no directory is its own source.  A directory brings one entry for each file
beneath it, of the links for those that the system follows from there, and for each special file, in
order.  If its path does not mislead, the source is not remote, and its path is what is shown of the
path that was walked: that path itself exactly if the names are text.  If it misleads, the source is
another location: it has a scheme, and is remote or has another path. -/
theorem ofInputs_localSources (root logicalRoot : String)
    (read : Location.parse? raw = some input) (here : input.localPath? = some path)
    (wellNamed : disk.files.tree.WellNamed) :
    ∃ part, (ofInputs (Disk.host root) logicalRoot [input]).outcome disk = (.ok part, disk) ∧
      (∀ inputs plan world, input ∈ inputs →
        (ofInputs (Disk.host root) logicalRoot inputs).outcome disk = (.ok plan, world) →
        part <:+: plan) ∧
      (disk.files.isDirectory path = false → part.map PlanEntry.source = [input]) ∧
      ∀ place attributes, disk.files.locate path = .ok (place, .directory attributes) →
        ∃ positions : List Place,
          (∀ names, names ∈ positions ↔ disk.files.FileBeneath place names ∧
              disk.files.Follows (RawText.down path names) (place ++ names) ∨
            disk.files.SpecialBeneath place names) ∧
          positions.Pairwise Place.Precedes ∧
          (¬ Location.Misleads path → List.Forall₂ (fun names entry =>
            entry.source.isRemote = false ∧
              entry.source.localPath? = some (RawText.down path names).lossy ∧
              (RawText.of (RawText.down path names).lossy = RawText.down path names ↔
                ∀ name ∈ names, name.IsText)) positions part) ∧
          (Location.Misleads path → List.Forall₂ (fun names entry =>
            entry.source.scheme ≠ none ∧
              entry.source.localPath?.map RawText.of ≠ some (RawText.down path names))
            positions part) := by
  obtain ⟨hremote, hpath⟩ := Location.localPath?_eq_some.1 here
  have normal : Location.Normal ⟨none, "", path⟩ :=
    hpath ▸ (Location.normal_of_parse? read).plainPath
  by_cases directory : disk.files.isDirectory path = true
  · obtain ⟨place, attributes, led⟩ := isDirectory_iff.1 directory
    obtain ⟨part, hpart, sources⟩ :=
      entriesOf_localDirectory root logicalRoot here normal wellNamed led
    refine ⟨part, ofInputs_singleton hpart, fun inputs plan world => infix_of_ofInputs hpart,
      fun other => absurd directory (by simp [other]), fun place' attributes' led' => ?_⟩
    obtain ⟨rfl, -⟩ := Prod.mk.inj (Except.ok.inj (led.symm.trans led'))
    refine ⟨disk.files.shipping true path, fun names => ?_, shipping_ascending _ _ _,
      fun honest => ?_, fun misleads => ?_⟩
    · rw [mem_shipping_iff led, ships_iff wellNamed led]
      simp only [true_and]
    · refine sources.imp fun names entry ⟨ships, source⟩ => ?_
      have itself := parse_lossy_down normal wellNamed honest ships
      obtain hentry := Option.some.inj (source.symm.trans (Location.parse_ok_iff.1 itself))
      rw [hentry]
      exact ⟨rfl, rfl, RawText.isText_down (((mem_shipping_iff led).1 ships).proper wellNamed) path⟩
    · refine sources.imp fun names entry ⟨ships, source⟩ => ?_
      obtain ⟨inhabited, proper⟩ := names_of_mem_shipping wellNamed ships
      have uri := Location.uri_pathBeneath normal inhabited proper misleads
      rw [pathBeneath, Place.shown, ← RawText.lossy_down] at uri
      obtain ⟨schemed, other⟩ := uri.reads source
      refine ⟨schemed, fun same => other ?_⟩
      -- The path of the source would be the path that was walked, and so what is shown of it.
      obtain ⟨text, htext, walked⟩ := Option.map_eq_some_iff.1 same
      rw [(Location.localPath?_eq_some.1 htext).2, ← walked, RawText.lossy_of]
  · have planned : entriesOf root logicalRoot disk input = .ok [single logicalRoot input] := by
      rw [entriesOf, here]
      dsimp only
      rw [ofLocalInput]
      split
      · next place attributes led =>
        exact absurd (isDirectory_iff.2 ⟨place, attributes, led⟩) directory
      · rfl
    exact ⟨_, ofInputs_singleton planned, fun inputs plan world => infix_of_ofInputs planned,
      fun _ => rfl, fun place attributes led =>
        absurd (isDirectory_iff.2 ⟨place, attributes, led⟩) directory⟩

end Plan

namespace Sample

/-- The path need not start at the root: the files of `d` are those of `d` in the plan. -/
theorem ofInputs_localSources_sample :
    Location.parse? "d" = some (here "d") ∧
      ∃ part positions,
        (Plan.ofInputs (Disk.host "r") "lib" [here "d"]).outcome burrow = (.ok part, burrow) ∧
        (∀ names ∈ burrowFiles, names ∈ positions) ∧
        List.Forall₂ (fun names (entry : PlanEntry) => entry.source.isRemote = false ∧
          entry.source.localPath? = some (RawText.down "d" names).lossy ∧
          (RawText.of (RawText.down "d" names).lossy = RawText.down "d" names ↔
            ∀ name ∈ names, name.IsText)) positions part := by
  have read : Location.parse? "d" = some (here "d") := by decide
  have here? : (here "d").localPath? = some "d" := by decide
  have led : burrow.files.locate "d" = .ok (["d"], directory) := by decide
  have ships : burrow.files.shipping false "d" = burrowFiles := by decide
  obtain ⟨part, planned, -, -, walked⟩ :=
    Plan.ofInputs_localSources "r" "lib" read here? wellNamed_burrow
  obtain ⟨positions, all, -, honest, -⟩ := walked _ _ led
  refine ⟨read, part, positions, planned, fun names hnames => ?_,
    honest (Location.not_misleads_of_notMem (by decide))⟩
  rw [← ships] at hnames
  exact (all names).2 (.inl ((FileSystem.mem_shipping_false_iff wellNamed_burrow led).1 hnames))

/-- A directory whose name is a scheme and its colon, with one file. -/
def colon : Disk := ⟨⟨treeOf
  [(["ab:"], directory), (["ab:", "f"], file [49])], [], 7, 1⟩, []⟩

/-- The directory is local, and its file is taken for `ab:///f`. -/
theorem localSources_misread :
    ¬∀ (root logicalRoot raw : String) (disk : Disk) (input : Location) (plan : List PlanEntry),
      Location.parse? raw = some input → input.isRemote = false → disk.files.tree.WellNamed →
      (Plan.ofInputs (Disk.host root) logicalRoot [input]).outcome disk = (.ok plan, disk) →
      ∀ entry ∈ plan, entry.source.isRemote = false := by
  intro claim
  have planned : (Plan.ofInputs (Disk.host "r") "lib" [here "ab:"]).outcome colon =
      (.ok [⟨⟨some "ab", "", "/f"⟩, "lib/ab:/f"⟩], colon) := by decide
  have wellNamed : colon.files.tree.WellNamed := FileTree.wellNamed_iff.2 (by decide)
  have kept := claim "r" "lib" "ab:" colon _ _ (by decide) (by decide) wellNamed
    planned
  exact absurd (kept _ List.mem_cons_self) (by decide)

end Sample

end ArtifactStaging
