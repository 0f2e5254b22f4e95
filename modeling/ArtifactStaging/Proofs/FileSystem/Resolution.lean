/-
# ArtifactStaging.Proofs.FileSystem.Resolution -- where paths lead as a tree grows

`Arrives` is how names lead to a target, one constructor for what each name can do;
`follow` finds a target exactly if the names lead there (`follow_ok_iff`), and what is
true of all names is shown by induction on how they lead.

A path that leads to an entry leads to what stands at the entry's place, and one
that leads to a missing name to a place where nothing stands.

`FileTree.Grows` compares two trees: every entry of the first is still there in the
second, a file as the same file, a directory as a directory and a link as the same link, and
all that is new are files and directories.  A path that leads somewhere leads to the same
place in the grown tree (`followWithin_found_of_grows`), whatever else was put there.
-/
import ArtifactStaging.FileSystem.Basic
import ArtifactStaging.Proofs.FileSystem.RawNames
import ArtifactStaging.Proofs.Result

set_option autoImplicit false

namespace ArtifactStaging

/-! ## Entries of one kind -/

namespace Entry

/-- Directories are of one kind.  A file is of the kind of the same file, a link of that of links
to the same target, and anything else of that of its like. -/
def SameKind : Entry → Entry → Prop
  | .file number _ _, .file number' _ _ => number = number'
  | .directory _, .directory _ => True
  | .link target _, .link target' _ => target = target'
  | .special kind _, .special kind' _ => kind = kind'
  | _, _ => False

variable {a b c : Entry}

theorem SameKind.refl (entry : Entry) : SameKind entry entry := by
  cases entry <;> simp [SameKind]

theorem SameKind.trans (hab : SameKind a b) (hbc : SameKind b c) : SameKind a c := by
  cases a <;> cases b <;> cases c <;> simp_all [SameKind]

theorem sameKind_file {number : Nat} {content : Content} {attributes : Attributes} :
    SameKind (.file number content attributes) a ↔
      ∃ content' attributes', a = .file number content' attributes' := by
  cases a <;> simp [SameKind, eq_comm]

theorem sameKind_directory {attributes : Attributes} :
    SameKind (.directory attributes) a ↔ ∃ attributes', a = .directory attributes' := by
  cases a <;> simp [SameKind]

theorem sameKind_link {target : RawText} {modified : Int64} :
    SameKind (.link target modified) a ↔ ∃ modified', a = .link target modified' := by
  cases a <;> simp [SameKind, eq_comm]

theorem sameKind_special {kind : Special} {attributes : Attributes} :
    SameKind (.special kind attributes) a ↔ ∃ attributes', a = .special kind attributes' := by
  cases a <;> simp [SameKind, eq_comm]

theorem SameKind.isDirectory (h : SameKind a b) : b.isDirectory = a.isDirectory := by
  cases a <;> cases b <;> first | rfl | exact h.elim

/-- Writing a file leaves every file the file it is. -/
theorem sameKind_afterWriting (written entry : Entry) :
    SameKind entry (written.afterWriting entry) := by
  unfold afterWriting
  split
  · next same =>
    obtain ⟨_, _, _, _, _, rfl, rfl⟩ := sameFile_iff.1 same
    exact rfl
  · exact .refl entry

/-- Whether the entry ends a path: it is neither a directory nor a link. -/
def IsLeaf (entry : Entry) : Prop :=
  entry.isDirectory = false ∧ ∀ target modified, entry ≠ .link target modified

theorem IsLeaf.sameKind (leaf : a.IsLeaf) (h : SameKind a b) : b.IsLeaf := by
  refine ⟨h.isDirectory.trans leaf.1, ?_⟩
  rintro target modified rfl
  cases a with
  | link target' modified' => exact leaf.2 _ _ rfl
  | file number content attributes => exact h
  | directory attributes => exact h
  | special kind attributes => exact h

theorem isLeaf_file {number : Nat} {content : Content} {attributes : Attributes} :
    IsLeaf (.file number content attributes) := ⟨rfl, fun _ _ h => by cases h⟩

theorem isLeaf_special {kind : Special} {attributes : Attributes} :
    IsLeaf (.special kind attributes) := ⟨rfl, fun _ _ h => by cases h⟩

end Entry

/-! ## Directories of a tree -/

namespace FileTree

variable {tree : FileTree} {place : Place} {entry : Entry}

/-- Whatever stands somewhere stands in a directory. -/
theorem isDirectory_dropLast_of_at? (h : tree.at? place = some entry) :
    tree.isDirectory place.dropLast = true :=
  tree.rooted place entry h

theorem isDirectory_of_at? {attributes : Attributes}
    (h : tree.at? place = some (.directory attributes)) : tree.isDirectory place = true := by
  rw [isDirectory_eq, h]
  rfl

theorem exists_of_isDirectory (h : tree.isDirectory place = true) :
    ∃ attributes, tree.at? place = some (.directory attributes) := by
  rw [isDirectory_eq, Option.any_eq_true] at h
  obtain ⟨entry, here, directory⟩ := h
  cases entry with
  | directory attributes => exact ⟨attributes, here⟩
  | file => cases directory
  | link => cases directory
  | special => cases directory

theorem isDirectory_dropLast (h : tree.isDirectory place = true) :
    tree.isDirectory place.dropLast = true := by
  obtain ⟨attributes, here⟩ := exists_of_isDirectory h
  exact isDirectory_dropLast_of_at? here

/-- Nothing but a directory holds anything. -/
theorem at?_behind (here : tree.at? place = some entry) (other : entry.isDirectory = false)
    (name : RawText) : tree.at? (place ++ [name]) = none := by
  rw [Option.eq_none_iff_forall_ne_some]
  intro inner hinner
  have held := isDirectory_dropLast_of_at? hinner
  rw [List.dropLast_concat, isDirectory_eq, here, Option.any_some, other] at held
  cases held

end FileTree

/-! ## Grown trees -/

namespace FileTree

/-- Every entry of the first tree stands in the second, as one of the same kind, and what else
stands there are files and directories. -/
structure Grows (before after : FileTree) : Prop where
  stays : ∀ place entry, before.at? place = some entry →
    ∃ entry', after.at? place = some entry' ∧ entry.SameKind entry'
  stood : ∀ place entry', after.at? place = some entry' → entry'.isFile = false →
    entry'.isDirectory = false → ∃ entry, before.at? place = some entry ∧ entry.SameKind entry'

theorem Grows.refl (tree : FileTree) : tree.Grows tree :=
  ⟨fun _ entry h => ⟨entry, h, .refl entry⟩, fun _ entry h _ _ => ⟨entry, h, .refl entry⟩⟩

theorem Grows.trans {first second third : FileTree} (h : first.Grows second)
    (h' : second.Grows third) : first.Grows third := by
  constructor
  · intro place entry hentry
    obtain ⟨entry', hentry', hkind⟩ := h.stays place entry hentry
    obtain ⟨entry'', hentry'', hkind'⟩ := h'.stays place entry' hentry'
    exact ⟨entry'', hentry'', hkind.trans hkind'⟩
  · intro place entry'' hentry'' file directory
    obtain ⟨entry', hentry', hkind'⟩ := h'.stood place entry'' hentry'' file directory
    have directory' := hkind'.isDirectory.symm.trans directory
    have file' : entry'.isFile = false := by
      cases entry' <;> cases entry'' <;> first | rfl | exact hkind'.elim | cases file
    obtain ⟨entry, hentry, hkind⟩ := h.stood place entry' hentry' file' directory'
    exact ⟨entry, hentry, hkind.trans hkind'⟩

/-- Putting an entry in the place of one of its kind, or a file or a directory where nothing
stands, makes a tree grow. -/
theorem grows_put {tree : FileTree} {place : Place} {entry : Entry}
    (h : ∀ old, tree.at? place = some old → old.SameKind entry)
    (fresh : tree.at? place = none → entry.isFile = true ∨ entry.isDirectory = true) :
    tree.Grows (tree.put place entry) := by
  by_cases admits : tree.admits place entry = true
  · constructor
    · intro other old hold
      rw [at?_put admits]
      split
      · next heq =>
        subst heq
        exact ⟨entry, rfl, h old hold⟩
      · exact ⟨_, congrArg (Option.map _) hold, Entry.sameKind_afterWriting entry old⟩
    · intro other later hlater file directory
      rw [at?_put admits] at hlater
      split at hlater
      · next heq =>
        subst heq
        cases hlater
        cases hold : tree.at? place with
        | none => rcases fresh hold with new | new <;> simp_all
        | some old => exact ⟨old, rfl, h old hold⟩
      · obtain ⟨old, hold, rfl⟩ := Option.map_eq_some_iff.1 hlater
        exact ⟨old, hold, Entry.sameKind_afterWriting entry old⟩
  · rw [put, dif_neg admits]
    exact .refl tree

end FileTree

/-! ## Following names -/

/-- What a tree says of a target: the entry stands at its place, the missing name does not. -/
def Target.Holds (tree : FileTree) : Target → Prop
  | .found place entry => tree.at? place = some entry
  | .missing place _ => tree.at? place = none

namespace FileSystem

open RawText (Plain)

section

variable {tree : FileTree} {followLast asDirectory : Bool}
  {onLink onLink' : Route → Except IoCause Target} {place : Place} {name : RawText}
  {rest : List RawText} {attributes : Attributes}

/-! What one name does. -/

@[simp] theorem follow_dot :
    follow tree followLast onLink asDirectory place (RawText.of "." :: rest) =
      follow tree followLast onLink asDirectory place rest := by
  rw [follow, if_pos rfl]

@[simp] theorem follow_up :
    follow tree followLast onLink asDirectory place (RawText.of ".." :: rest) =
      follow tree followLast onLink asDirectory place.dropLast rest := by
  rw [follow, if_neg (by decide), if_pos rfl]

theorem follow_cons (plain : Plain name) (fits : name.size ≤ longestName) :
    follow tree followLast onLink asDirectory place (name :: rest) =
      match tree.at? (place ++ [name]) with
      | none =>
          if rest.isEmpty then .ok (.missing (place ++ [name]) asDirectory) else .error .notFound
      | some (.directory _) => follow tree followLast onLink asDirectory (place ++ [name]) rest
      | some (.link target modified) =>
          if rest.isEmpty && !asDirectory && !followLast then
            .ok (.found (place ++ [name]) (.link target modified))
          else onLink (Route.throughLink place target rest asDirectory)
      | some leaf =>
          if rest.isEmpty && !asDirectory then .ok (.found (place ++ [name]) leaf)
          else .error .notADirectory := by
  rw [follow, if_neg plain.1, if_neg plain.2]
  exact if_neg (Nat.not_lt.2 fits)

theorem follow_down (plain : Plain name) (fits : name.size ≤ longestName)
    (inner : tree.at? (place ++ [name]) = some (.directory attributes)) :
    follow tree followLast onLink asDirectory place (name :: rest) =
      follow tree followLast onLink asDirectory (place ++ [name]) rest := by
  rw [follow_cons plain fits, inner]

theorem follow_leaf {entry : Entry} (plain : Plain name) (fits : name.size ≤ longestName)
    (inner : tree.at? (place ++ [name]) = some entry) (leaf : entry.IsLeaf) :
    follow tree followLast onLink asDirectory place (name :: rest) =
      if rest.isEmpty && !asDirectory then .ok (.found (place ++ [name]) entry)
      else .error .notADirectory := by
  rw [follow_cons plain fits, inner]
  cases entry with
  | file => rfl
  | special => rfl
  | directory => cases leaf.1
  | link => exact absurd rfl (leaf.2 _ _)

/-- A name that is too long leads nowhere. -/
theorem fits_of_follow {target : Target} (plain : Plain name)
    (h : follow tree followLast onLink asDirectory place (name :: rest) = .ok target) :
    name.size ≤ longestName := by
  rw [follow, if_neg plain.1, if_neg plain.2] at h
  exact Nat.not_lt.1 (Except.error_ite_ok_iff.1 h).1

end

/-- How names lead from a place to a target, name by name. -/
inductive Arrives (tree : FileTree) (followLast : Bool) (onLink : Route → Except IoCause Target)
    (asDirectory : Bool) : Place → List RawText → Target → Prop
  /-- No more names. -/
  | here {place : Place} {entry : Entry} (stands : tree.at? place = some entry) :
      Arrives tree followLast onLink asDirectory place [] (.found place entry)
  | dot {place : Place} {rest : List RawText} {target : Target}
      (onward : Arrives tree followLast onLink asDirectory place rest target) :
      Arrives tree followLast onLink asDirectory place (RawText.of "." :: rest) target
  | up {place : Place} {rest : List RawText} {target : Target}
      (onward : Arrives tree followLast onLink asDirectory place.dropLast rest target) :
      Arrives tree followLast onLink asDirectory place (RawText.of ".." :: rest) target
  | down {place : Place} {name : RawText} {rest : List RawText} {target : Target}
      {attributes : Attributes} (plain : Plain name) (fits : name.size ≤ longestName)
      (inner : tree.at? (place ++ [name]) = some (.directory attributes))
      (onward : Arrives tree followLast onLink asDirectory (place ++ [name]) rest target) :
      Arrives tree followLast onLink asDirectory place (name :: rest) target
  /-- A link that is followed. -/
  | through {place : Place} {name text : RawText} {rest : List RawText} {target : Target}
      {modified : Int64} (plain : Plain name) (fits : name.size ≤ longestName)
      (inner : tree.at? (place ++ [name]) = some (.link text modified))
      (followed : (rest.isEmpty && !asDirectory && !followLast) = false)
      (onward : onLink (Route.throughLink place text rest asDirectory) = .ok target) :
      Arrives tree followLast onLink asDirectory place (name :: rest) target
  /-- A link at the end that is not followed. -/
  | link {place : Place} {name text : RawText} {modified : Int64} (plain : Plain name)
      (fits : name.size ≤ longestName)
      (inner : tree.at? (place ++ [name]) = some (.link text modified))
      (stays : (!asDirectory && !followLast) = true) :
      Arrives tree followLast onLink asDirectory place [name]
        (.found (place ++ [name]) (.link text modified))
  | leaf {place : Place} {name : RawText} {entry : Entry} (plain : Plain name)
      (fits : name.size ≤ longestName) (inner : tree.at? (place ++ [name]) = some entry)
      (leaf : entry.IsLeaf) (bare : asDirectory = false) :
      Arrives tree followLast onLink asDirectory place [name] (.found (place ++ [name]) entry)
  | missing {place : Place} {name : RawText} (plain : Plain name)
      (fits : name.size ≤ longestName) (absent : tree.at? (place ++ [name]) = none) :
      Arrives tree followLast onLink asDirectory place [name]
        (.missing (place ++ [name]) asDirectory)

variable {tree before after : FileTree} {followLast asDirectory : Bool}
  {onLink onLink' : Route → Except IoCause Target}

theorem Arrives.of_follow {target : Target} (place : Place) (names : List RawText)
    (h : follow tree followLast onLink asDirectory place names = .ok target) :
    Arrives tree followLast onLink asDirectory place names target := by
  induction names generalizing place with
  | nil =>
      simp only [follow] at h
      split at h
      · next stands =>
        cases h
        exact .here stands
      · cases h
  | cons name rest ih =>
      by_cases dot : name = RawText.of "."
      · subst dot
        exact .dot (ih _ (follow_dot.symm.trans h))
      by_cases up : name = RawText.of ".."
      · subst up
        exact .up (ih _ (follow_up.symm.trans h))
      have plain : Plain name := ⟨dot, up⟩
      have fits := fits_of_follow plain h
      have atLeaf {entry : Entry} (inner : tree.at? (place ++ [name]) = some entry)
          (leaf : entry.IsLeaf) :
          Arrives tree followLast onLink asDirectory place (name :: rest) target := by
        rw [follow_leaf plain fits inner leaf] at h
        split at h
        · next bare =>
          cases h
          obtain ⟨last, bare⟩ := Bool.and_eq_true_iff.1 bare
          obtain rfl := List.isEmpty_iff.1 last
          exact .leaf plain fits inner leaf (by simpa using bare)
        · cases h
      cases inner : tree.at? (place ++ [name]) with
      | none =>
        rw [follow_cons plain fits, inner] at h
        dsimp only at h
        split at h
        · next last =>
          obtain rfl := List.isEmpty_iff.1 last
          cases h
          exact .missing plain fits inner
        · cases h
      | some entry =>
        cases entry with
        | file => exact atLeaf inner Entry.isLeaf_file
        | special => exact atLeaf inner Entry.isLeaf_special
        | directory =>
            exact .down plain fits inner (ih _ ((follow_down plain fits inner).symm.trans h))
        | link =>
          rw [follow_cons plain fits, inner] at h
          dsimp only at h
          split at h
          · next stays =>
            cases h
            simp only [Bool.and_assoc] at stays
            obtain ⟨last, stays⟩ := Bool.and_eq_true_iff.1 stays
            obtain rfl := List.isEmpty_iff.1 last
            exact .link plain fits inner stays
          · next followed => exact .through plain fits inner (by simpa using followed) h

/-- Names are followed to a target exactly if they lead there. -/
theorem follow_ok_iff {target : Target} {place : Place} {names : List RawText} :
    follow tree followLast onLink asDirectory place names = .ok target ↔
      Arrives tree followLast onLink asDirectory place names target := by
  refine ⟨.of_follow place names, fun arrives => ?_⟩
  induction arrives with
  | here stands => rw [follow, stands]
  | dot _ ih => rwa [follow_dot]
  | up _ ih => rwa [follow_up]
  | down plain fits inner _ ih => rwa [follow_down plain fits inner]
  | through plain fits inner followed onward =>
      simp only [follow_cons plain fits, inner, followed, Bool.false_eq_true, if_false]
      exact onward
  | link plain fits inner stays => simp [follow_cons plain fits, inner, by simpa using stays]
  | leaf plain fits inner leaf bare => simp [follow_leaf plain fits inner leaf, bare]
  | missing plain fits absent => simp [follow_cons plain fits, absent]

theorem follow_holds {target : Target}
    (links : ∀ route target, onLink route = .ok target → target.Holds tree)
    (place : Place) (names : List RawText)
    (h : follow tree followLast onLink asDirectory place names = .ok target) :
    target.Holds tree := by
  rw [follow_ok_iff] at h
  induction h with
  | here stands => exact stands
  | dot _ ih => exact ih
  | up _ ih => exact ih
  | down _ _ _ _ ih => exact ih
  | through _ _ _ _ onward => exact links _ _ onward
  | link _ _ inner => exact inner
  | leaf _ _ inner => exact inner
  | missing _ _ absent => exact absent

theorem followWithin_holds (links : Nat) (route : Route) (target : Target)
    (h : followWithin tree followLast links route = .ok target) : target.Holds tree := by
  induction links generalizing route target with
  | zero => exact follow_holds (fun _ _ h => by cases h) _ _ h
  | succ links ih => exact follow_holds ih _ _ h

/-- Where names lead in a tree, they lead in the grown one. -/
theorem follow_found_of_grows (grows : before.Grows after)
    (links : ∀ route place entry, onLink route = .ok (.found place entry) →
      ∃ entry', onLink' route = .ok (.found place entry') ∧ entry.SameKind entry')
    {found : Place} {entry : Entry} (place : Place) (names : List RawText)
    (h : follow before followLast onLink asDirectory place names = .ok (.found found entry)) :
    ∃ entry', follow after followLast onLink' asDirectory place names =
      .ok (.found found entry') ∧ entry.SameKind entry' := by
  simp only [follow_ok_iff] at h ⊢
  generalize heq : Target.found found entry = target at h
  induction h with
  | here stands =>
      cases heq
      exact (grows.stays _ _ stands).imp fun _ h => ⟨.here h.1, h.2⟩
  | dot _ ih => exact (ih heq).imp fun _ h => ⟨.dot h.1, h.2⟩
  | up _ ih => exact (ih heq).imp fun _ h => ⟨.up h.1, h.2⟩
  | down plain fits inner _ ih =>
      obtain ⟨_, inner', same⟩ := grows.stays _ _ inner
      obtain ⟨attributes', rfl⟩ := Entry.sameKind_directory.1 same
      exact (ih heq).imp fun _ h => ⟨.down plain fits inner' h.1, h.2⟩
  | through plain fits inner followed onward =>
      cases heq
      obtain ⟨_, inner', same⟩ := grows.stays _ _ inner
      obtain ⟨modified', rfl⟩ := Entry.sameKind_link.1 same
      exact (links _ _ _ onward).imp fun _ h => ⟨.through plain fits inner' followed h.1, h.2⟩
  | link plain fits inner stays =>
      cases heq
      obtain ⟨_, inner', same⟩ := grows.stays _ _ inner
      obtain ⟨modified', rfl⟩ := Entry.sameKind_link.1 same
      exact ⟨_, .link plain fits inner' stays, same⟩
  | leaf plain fits inner leaf bare =>
      cases heq
      obtain ⟨_, inner', same⟩ := grows.stays _ _ inner
      exact ⟨_, .leaf plain fits inner' (leaf.sameKind same) bare, same⟩
  | missing => cases heq

theorem followWithin_found_of_grows (grows : before.Grows after) (links : Nat) (route : Route)
    (place : Place) (entry : Entry)
    (h : followWithin before followLast links route = .ok (.found place entry)) :
    ∃ entry', followWithin after followLast links route = .ok (.found place entry') ∧
      entry.SameKind entry' := by
  induction links generalizing route place entry with
  | zero => exact follow_found_of_grows grows (fun _ _ _ h => by cases h) _ _ h
  | succ links ih => exact follow_found_of_grows grows ih _ _ h

/-! ## Looking up paths -/

variable {fs grown : FileSystem} {path : RawText} {place : Place} {entry : Entry}

/-- The same machine later: nothing is gone from its tree, and its working directory is the
same. -/
structure Grows (fs grown : FileSystem) : Prop where
  tree : fs.tree.Grows grown.tree
  here : grown.here = fs.here

theorem Grows.refl (fs : FileSystem) : fs.Grows fs := ⟨.refl _, rfl⟩

theorem Grows.trans {first second third : FileSystem} (h : first.Grows second)
    (h' : second.Grows third) : first.Grows third :=
  ⟨h.tree.trans h'.tree, h'.here.trans h.here⟩

theorem locate_ok_iff :
    fs.locate path = .ok (place, entry) ↔
      checkPath path = .ok () ∧
        followWithin fs.tree true linkBudget (Route.ofPath fs.here path) =
          .ok (.found place entry) := by
  simp only [locate, resolve, Except.bind_ok_iff]
  constructor
  · rintro ⟨target, ⟨_, checked, led⟩, h⟩
    cases target with
    | found place' entry' =>
        cases h
        exact ⟨checked, led⟩
    | missing => cases h
  · rintro ⟨checked, led⟩
    exact ⟨_, ⟨(), checked, led⟩, rfl⟩

/-- Only a path that is written leads anywhere. -/
theorem ne_empty_of_locate {path : String} (h : fs.locate path = .ok (place, entry)) :
    path ≠ "" := by
  rintro rfl
  obtain ⟨checked, -⟩ := locate_ok_iff.1 h
  cases checked

/-- A path that leads to an entry leads to the same place later. -/
theorem Grows.locate (grows : fs.Grows grown) (h : fs.locate path = .ok (place, entry)) :
    ∃ entry', grown.locate path = .ok (place, entry') ∧ entry.SameKind entry' := by
  obtain ⟨checked, found⟩ := locate_ok_iff.1 h
  obtain ⟨entry', found', hkind⟩ := followWithin_found_of_grows grows.tree _ _ _ _ found
  exact ⟨entry', locate_ok_iff.2 ⟨checked, grows.here ▸ found'⟩, hkind⟩

theorem isDirectory_iff :
    fs.isDirectory path = true ↔
      ∃ place attributes, fs.locate path = .ok (place, .directory attributes) := by
  unfold FileSystem.isDirectory FileSystem.entry
  cases fs.locate path with
  | error cause => simp [Except.map, Except.toOption]
  | ok found =>
      obtain ⟨place, entry⟩ := found
      cases entry <;> simp [Except.map, Except.toOption, Entry.isDirectory]

theorem isFile_iff :
    fs.isFile path = true ↔
      ∃ place number content attributes,
        fs.locate path = .ok (place, .file number content attributes) := by
  unfold FileSystem.isFile FileSystem.entry
  cases fs.locate path with
  | error cause => simp [Except.map, Except.toOption]
  | ok found =>
      obtain ⟨place, entry⟩ := found
      cases entry <;> simp [Except.map, Except.toOption, Entry.isFile]

theorem Grows.isDirectory (grows : fs.Grows grown) (h : fs.isDirectory path = true) :
    grown.isDirectory path = true := by
  obtain ⟨place, attributes, led⟩ := isDirectory_iff.1 h
  obtain ⟨_, led', hkind⟩ := grows.locate led
  obtain ⟨attributes', rfl⟩ := Entry.sameKind_directory.1 hkind
  exact isDirectory_iff.2 ⟨place, attributes', led'⟩

theorem Grows.isFile (grows : fs.Grows grown) (h : fs.isFile path = true) :
    grown.isFile path = true := by
  obtain ⟨place, number, content, attributes, led⟩ := isFile_iff.1 h
  obtain ⟨_, led', hkind⟩ := grows.locate led
  obtain ⟨content', attributes', rfl⟩ := Entry.sameKind_file.1 hkind
  exact isFile_iff.2 ⟨place, number, content', attributes', led'⟩

end FileSystem

end ArtifactStaging
