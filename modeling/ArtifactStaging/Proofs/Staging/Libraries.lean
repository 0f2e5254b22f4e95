/-
# ArtifactStaging.Proofs.Staging.Libraries -- an index of the shared libraries, or all conflicts

What a storage says of the roots is `Surveys`: the files beneath each root that is a
directory, one list for each root.  `tagged` puts the lists one after the other, each file
with the position of its root.

The files are sorted out in one pass.  What the pass knows after some files is `Sorts`:
under every name the first file that has it, and every conflict so far.  Files are skipped
when they are in conflict, so a file need not stand where it was found; but the first
file of a name is never skipped, and that is all that later files are compared with.

`build_outcome` puts both together: there is an index exactly when no name was found twice,
it has every file in order, and otherwise the conflicts are all there are (`repeats`).
-/
import ArtifactStaging.Proofs.Run
import Mathlib.Data.List.Basic
import Mathlib.Data.List.Induction

set_option autoImplicit false

namespace ArtifactStaging.SharedLibraryIndex

variable {files : List SharedEntry} {file : SharedEntry} {name : String} {pass : Pass}

/-! ## Conflicts -/

/-- The conflict of a file with the first of its name among the files before it. -/
def repeatOf (earlier : List SharedEntry) (file : SharedEntry) : Option NameConflict :=
  (earlier.find? (·.fileName == file.fileName)).map fun first =>
    ⟨file.fileName, first.status.path, file.status.path, decide (first.rootIndex = file.rootIndex)⟩

/-- For every file whose name was found before, in order, its conflict with the first file of
that name. -/
def repeats (files : List SharedEntry) : List NameConflict :=
  files.zipIdx.filterMap fun (file, position) => repeatOf (files.take position) file

theorem repeats_concat (files : List SharedEntry) (file : SharedEntry) :
    repeats (files ++ [file]) = repeats files ++ (repeatOf files file).toList := by
  have before : ∀ found ∈ files.zipIdx,
      repeatOf ((files ++ [file]).take found.2) found.1 =
        repeatOf (files.take found.2) found.1 := by
    rintro ⟨other, position⟩ hfound
    have hlt : position < files.length := by
      simpa using (List.mem_zipIdx hfound).2.1
    rw [List.take_append_of_le_length (Nat.le_of_lt hlt)]
  rw [repeats, List.zipIdx_append, List.filterMap_append, List.filterMap_congr before]
  simp only [Nat.zero_add, List.zipIdx_singleton, List.filterMap_cons, List.filterMap_nil,
    List.take_left]
  cases repeatOf files file <;> rfl

theorem repeatOf_eq_none_iff {earlier : List SharedEntry} :
    repeatOf earlier file = none ↔ file.fileName ∉ earlier.map SharedEntry.fileName := by
  simp [repeatOf]

/-- There are no conflicts exactly when every name was found once. -/
theorem repeats_eq_nil_iff :
    repeats files = [] ↔ (files.map SharedEntry.fileName).Nodup := by
  induction files using List.reverseRecOn with
  | nil => simp [repeats]
  | append_singleton files file ih =>
      rw [repeats_concat, List.append_eq_nil_iff, ih, Option.toList_eq_nil_iff,
        repeatOf_eq_none_iff, List.map_append, List.map_singleton, List.nodup_append]
      simp

/-! ## One pass -/

namespace Pass

/-- The file at the position of a name is the one that is found under it. -/
theorem get?_of_position {position : Nat} (h : pass.positions.get? name = some position) :
    pass.get? name = some (pass.entries.get ⟨position, pass.linked.within h⟩) := by
  rw [get?, h, Option.bind_some]
  exact List.getElem?_eq_getElem (pass.linked.within h)

/-- A file whose name was found before is in conflict with the first of that name, and that is
all. -/
theorem add_of_found {first : SharedEntry} (found : pass.get? file.fileName = some first) :
    pass.add file = { pass with conflicts := pass.conflicts ++
      [⟨file.fileName, first.status.path, file.status.path,
        first.rootIndex == file.rootIndex⟩] } := by
  unfold Pass.add
  split
  · next position placed =>
    obtain rfl := Option.some.inj ((get?_of_position placed).symm.trans found)
    rfl
  · next fresh =>
    rw [get?, fresh] at found
    cases found

/-- A file of a new name goes to the end without a conflict.  It is found under its name, and under
every other name what was. -/
theorem add_of_fresh (fresh : pass.get? file.fileName = none) :
    (pass.add file).entries = pass.entries ++ [file] ∧
      (pass.add file).conflicts = pass.conflicts ∧
      ∀ name, (pass.add file).get? name =
        if file.fileName = name then some file else pass.get? name := by
  unfold Pass.add
  split
  · next position placed => cases (get?_of_position placed).symm.trans fresh
  refine ⟨rfl, rfl, fun name => ?_⟩
  rw [get?, Dictionary.get?_insert]
  split
  · simp
  · cases placed : pass.positions.get? name with
    | none => rw [get?, placed]; rfl
    | some position =>
        rw [get?, placed, Option.bind_some, Option.bind_some,
          List.getElem?_append_left (pass.linked.within placed)]

/-- What a pass knows of the files it has seen. -/
structure Sorts (files : List SharedEntry) (pass : Pass) : Prop where
  /-- Under every name, the first file of that name. -/
  first : ∀ name, pass.get? name = files.find? (·.fileName == name)
  /-- All conflicts. -/
  conflicts : pass.conflicts = repeats files
  /-- As long as there are no conflicts, all files. -/
  whole : pass.conflicts = [] → pass.entries = files

theorem sorts_start : Sorts [] start :=
  ⟨fun _ => rfl, rfl, fun _ => rfl⟩

/-- One more file is sorted in with the others. -/
theorem Sorts.add (sorts : Sorts files pass) (file : SharedEntry) :
    Sorts (files ++ [file]) (pass.add file) := by
  have repeated : repeatOf files file = (pass.get? file.fileName).map fun first =>
      ⟨file.fileName, first.status.path, file.status.path,
        decide (first.rootIndex = file.rootIndex)⟩ := by
    rw [repeatOf, sorts.first]
  cases found : pass.get? file.fileName with
  | some first =>
      -- The name was found before: the file changes no look-up.
      rw [found, Option.map_some] at repeated
      rw [add_of_found found]
      refine ⟨fun name => ?_, ?_, fun none => by simp at none⟩
      · rw [List.find?_append, ← sorts.first]
        by_cases hname : file.fileName = name
        · subst hname
          rw [found, Option.some_or, ← found]
        · simp [hname]
      · rw [repeats_concat, repeated, ← sorts.conflicts]
        rfl
  | none =>
      rw [found, Option.map_none] at repeated
      obtain ⟨entries, conflicts, look⟩ := add_of_fresh found
      refine ⟨fun name => ?_, ?_, fun none => ?_⟩
      · rw [look, List.find?_append, ← sorts.first]
        by_cases hname : file.fileName = name
        · subst hname
          simp [found]
        · simp [hname]
      · rw [repeats_concat, repeated, conflicts, sorts.conflicts, Option.toList_none,
          List.append_nil]
      · rw [entries, sorts.whole (conflicts ▸ none)]

/-- A pass sorts the files it has seen. -/
theorem sorts_foldl (files : List SharedEntry) : Sorts files (files.foldl Pass.add start) := by
  induction files using List.reverseRecOn with
  | nil => exact sorts_start
  | append_singleton files file ih =>
      rw [List.foldl_append]
      exact ih.add file

end Pass

/-- Files of which every name was found once make up an index, which has them all. -/
theorem indexOf_of_distinct (distinct : (files.map SharedEntry.fileName).Nodup) :
    ∃ index, indexOf files = .ok index ∧ index.entries = files := by
  have sorts := Pass.sorts_foldl files
  rw [← repeats_eq_nil_iff, ← sorts.conflicts] at distinct
  exact ⟨_, if_pos (List.isEmpty_iff.2 distinct), sorts.whole distinct⟩

/-- Files of which some share a name are refused with all their conflicts. -/
theorem indexOf_of_repeats (repeated : ¬(files.map SharedEntry.fileName).Nodup) :
    indexOf files = .error (.duplicateNames (repeats files)) := by
  have sorts := Pass.sorts_foldl files
  rw [← repeats_eq_nil_iff, ← sorts.conflicts, ← List.isEmpty_iff] at repeated
  rw [indexOf, if_neg repeated, sorts.conflicts]

/-- An index has all files that it was made of. -/
theorem entries_of_indexOf {index : SharedLibraryIndex} (h : indexOf files = .ok index) :
    index.entries = files := by
  by_cases distinct : (files.map SharedEntry.fileName).Nodup
  · obtain ⟨_, indexed, whole⟩ := indexOf_of_distinct distinct
    cases indexed.symm.trans h
    exact whole
  · cases (indexOf_of_repeats distinct).symm.trans h

/-! ## Scanning -/

variable {σ : Type} {storage : Storage σ} {root : Location} {roots : List Location}
  {found : List (List FileStatus)} {rootIndex : Nat} {s t : σ}

/-- What a storage that refuses nothing finds beneath a root: nothing when the root is missing or
no directory, and all files beneath it otherwise. -/
inductive Finds (storage : Storage σ) (root : Location) : List FileStatus → σ → σ → Prop
  | missing {s t : σ} (absent : (storage.pathExists root).outcome s = (.ok false, t)) :
      Finds storage root [] s t
  | noDirectory {s asked t : σ}
      (present : (storage.pathExists root).outcome s = (.ok true, asked))
      (other : (storage.isDirectory root).outcome asked = (.ok false, t)) :
      Finds storage root [] s t
  | directory {s asked looked t : σ} {files : List FileStatus}
      (present : (storage.pathExists root).outcome s = (.ok true, asked))
      (directory : (storage.isDirectory root).outcome asked = (.ok true, looked))
      (listed : (storage.listFiles root).outcome looked = (.ok files, t)) :
      Finds storage root files s t

/-- What it finds beneath roots, one after the other. -/
inductive Surveys (storage : Storage σ) : List Location → List (List FileStatus) → σ → σ → Prop
  | nil (s : σ) : Surveys storage [] [] s s
  | cons {root : Location} {roots : List Location} {files : List FileStatus}
      {found : List (List FileStatus)} {s u t : σ}
      (first : Finds storage root files s u) (others : Surveys storage roots found u t) :
      Surveys storage (root :: roots) (files :: found) s t

/-- The files of all roots, one root after the other, each under its name and with the position of
its root; the first root has the given position. -/
def tagged (found : List (List FileStatus)) (rootIndex : Nat) : List SharedEntry :=
  (found.zipIdx rootIndex).flatMap fun (files, rootIndex) =>
    files.map fun status => ⟨status.name, status, rootIndex⟩

theorem scanRoot_ok_iff {entries : List SharedEntry} :
    (scanRoot storage rootIndex root).outcome s = (.ok entries, t) ↔
      ∃ files, Finds storage root files s t ∧
        entries = files.map fun status => ⟨status.name, status, rootIndex⟩ := by
  rw [scanRoot, Run.bind_ok_iff]
  constructor
  · rintro ⟨present, asked, hpresent, h⟩
    cases present with
    | false =>
        cases h
        exact ⟨[], .missing hpresent, rfl⟩
    | true =>
        obtain ⟨directory, looked, hdirectory, h⟩ := Run.bind_ok_iff.1 h
        cases directory with
        | false =>
            cases h
            exact ⟨[], .noDirectory hpresent hdirectory, rfl⟩
        | true =>
            obtain ⟨files, listed, hlisted, h⟩ := Run.bind_ok_iff.1 h
            cases h
            exact ⟨files, .directory hpresent hdirectory hlisted, rfl⟩
  · rintro ⟨files, finds, rfl⟩
    cases finds with
    | missing absent => exact ⟨false, t, absent, rfl⟩
    | noDirectory present other =>
        exact ⟨true, _, present, Run.bind_ok_iff.2 ⟨false, t, other, rfl⟩⟩
    | directory present directory listed =>
        refine ⟨true, _, present, Run.bind_ok_iff.2 ⟨true, _, directory, ?_⟩⟩
        exact Run.bind_ok_iff.2 ⟨files, t, listed, rfl⟩

/-- A scan answers exactly when the storage refuses nothing, and then with what it finds. -/
theorem scanFrom_ok_iff :
    (scanFrom storage rootIndex roots).outcome s = (.ok files, t) ↔
      ∃ found, Surveys storage roots found s t ∧ files = tagged found rootIndex := by
  induction roots generalizing rootIndex files s t with
  | nil =>
      rw [scanFrom, Run.pure_ok_iff]
      constructor
      · rintro ⟨rfl, rfl⟩
        exact ⟨[], .nil _, rfl⟩
      · rintro ⟨found, survey, rfl⟩
        cases survey
        exact ⟨rfl, rfl⟩
  | cons root roots ih =>
      simp only [scanFrom, Run.bind_ok_iff, Run.pure_ok_iff, scanRoot_ok_iff, ih]
      constructor
      · rintro ⟨_, u, ⟨first, finds, rfl⟩, _, _, ⟨others, survey, rfl⟩, rfl, rfl⟩
        exact ⟨first :: others, .cons finds survey, rfl⟩
      · rintro ⟨_, survey, rfl⟩
        cases survey with
        | @cons _ _ first others _ u _ finds survey =>
            exact ⟨_, u, ⟨first, finds, rfl⟩, _, t, ⟨others, survey, rfl⟩, rfl, rfl⟩

/-- **One index, or all conflicts.**  When the storage refuses nothing, the files beneath the roots
make up an index, in the order in which they were found and each under its own name, if every name
was found once.  If not, building fails with a conflict for every file whose name was found
before. -/
theorem build_outcome (survey : Surveys storage roots found s t) :
    (((tagged found 0).map SharedEntry.fileName).Nodup →
      ∃ index, (build storage roots).outcome s = (.ok index, t) ∧
        index.entries = tagged found 0 ∧
        ∀ name entry, index.get? name = some entry ↔
          entry ∈ tagged found 0 ∧ entry.fileName = name) ∧
    (¬((tagged found 0).map SharedEntry.fileName).Nodup →
      (build storage roots).outcome s = (.error (.duplicateNames (repeats (tagged found 0))), t)) := by
  have scanned : (scanFrom storage 0 roots).outcome s = (.ok (tagged found 0), t) :=
    scanFrom_ok_iff.2 ⟨found, survey, rfl⟩
  have built : (build storage roots).outcome s = (indexOf (tagged found 0), t) := by
    rw [build, Run.outcome_bind, Run.outcome_mapError, scanned]
    rfl
  constructor
  · intro distinct
    obtain ⟨index, indexed, whole⟩ := indexOf_of_distinct distinct
    exact ⟨index, by rw [built, indexed], whole, fun name entry => whole ▸ get?_eq_some⟩
  · intro repeated
    rw [built, indexOf_of_repeats repeated]

namespace Sample

/-- The status of a file. -/
def fileAt (path : String) : FileStatus := ⟨⟨none, "", path⟩, 1, 5, false⟩

/-- A storage that counts what it is asked.  It has the files `/p/a`, `/p/b`, `/p/x/b`, `/q/b` and
`/f`. -/
def shelves : Storage Nat where
  pathExists path := answer (path.path != "/gone")
  isDirectory path := answer (path.path != "/f")
  listFiles path := answer
    (if path.path = "/p" then [fileAt "/p/a", fileAt "/p/b", fileAt "/p/x/b"]
    else [fileAt "/q/b"])
  stat path := refuse "stat" path
  listStatus path := refuse "list_status" path
  copyFromLocal _ path _ _ := refuse "copy_from_local" path
  setReplication path _ := refuse "set_replication" path
  makeDirectories path _ := refuse "mkdirs" path
where
  answer {α : Type} (a : α) : Run Nat StorageError α := .ofFunction fun asked => (.ok a, asked + 1)
  refuse {α : Type} (operation : String) (path : Location) : Run Nat StorageError α :=
    .ofExcept (.error (.unsupported operation path.render))

/-- A root among the shelves. -/
def shelf (path : String) : Location := ⟨none, "", path⟩

/-- A root that is missing and one that is a file make up an empty index; a name that is found
twice beneath the first directory and once beneath the second makes two conflicts with the first
file of that name. -/
theorem build_outcome_sample :
    Surveys shelves [shelf "/gone", shelf "/q", shelf "/f"] [[], [fileAt "/q/b"], []] 0 6 ∧
      (∃ index, (build shelves [shelf "/gone", shelf "/q", shelf "/f"]).outcome 0 = (.ok index, 6) ∧
        index.entries = [⟨"b", fileAt "/q/b", 1⟩]) ∧
      Surveys shelves [shelf "/p", shelf "/gone", shelf "/q"]
        [[fileAt "/p/a", fileAt "/p/b", fileAt "/p/x/b"], [], [fileAt "/q/b"]] 0 7 ∧
      (build shelves [shelf "/p", shelf "/gone", shelf "/q"]).outcome 0 =
        (.error (.duplicateNames
          [⟨"b", shelf "/p/b", shelf "/p/x/b", true⟩, ⟨"b", shelf "/p/b", shelf "/q/b", false⟩]),
          7) := by
  have first : Surveys shelves [shelf "/gone", shelf "/q", shelf "/f"]
      [[], [fileAt "/q/b"], []] 0 6 :=
    .cons (.missing rfl) (.cons (.directory rfl rfl rfl) (.cons (.noDirectory rfl rfl) (.nil 6)))
  have second : Surveys shelves [shelf "/p", shelf "/gone", shelf "/q"]
      [[fileAt "/p/a", fileAt "/p/b", fileAt "/p/x/b"], [], [fileAt "/q/b"]] 0 7 :=
    .cons (.directory rfl rfl rfl) (.cons (.missing rfl) (.cons (.directory rfl rfl rfl) (.nil 7)))
  have tags : tagged [[], [fileAt "/q/b"], []] 0 = [⟨"b", fileAt "/q/b", 1⟩] := by decide
  have conflicts : repeats (tagged
      [[fileAt "/p/a", fileAt "/p/b", fileAt "/p/x/b"], [], [fileAt "/q/b"]] 0) =
      [⟨"b", shelf "/p/b", shelf "/p/x/b", true⟩, ⟨"b", shelf "/p/b", shelf "/q/b", false⟩] := by
    decide
  refine ⟨first, ?_, second, ?_⟩
  · obtain ⟨index, built, hentries, -⟩ := (build_outcome first).1 (by decide)
    exact ⟨index, built, hentries.trans tags⟩
  · rw [(build_outcome second).2 (by decide), conflicts]

end Sample

end ArtifactStaging.SharedLibraryIndex
