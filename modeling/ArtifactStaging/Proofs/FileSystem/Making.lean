/-
# ArtifactStaging.Proofs.FileSystem.Making -- directories that were made

A directory is made where a path leads to a name that is missing.  That name is one of the path's
own or of a link's on the way, and it leads down, since dots and two dots are never missing
(`follow_missing`).

Making looks at a path in a way of its own: it does not follow a link at the end, and does not mind
a slash there.  Looked at in the usual way, the path leads to the new directory or nowhere
(`follow_made`).  So where making directories succeeds, the path leads to a directory, unless it
leads nowhere at all (`isDirectory_of_createDirectories`).  Setting permission bits fails there, so
both together leave a directory.
-/
import ArtifactStaging.Proofs.FileSystem.Copying
import ArtifactStaging.Proofs.Location.Walking

set_option autoImplicit false

namespace ArtifactStaging.FileSystem

/-! ## Missing names -/

section

variable {tree before after : FileTree} {followLast asDirectory asDirectory' slash : Bool}
  {onLink onLink' : Route → Except IoCause Target} {found origin : Place} {entry : Entry}

/-- A name that is missing is one of those that were followed, and it leads down. -/
theorem follow_missing
    (links : ∀ route slash, (∀ name ∈ route.names, name.Proper) →
      onLink route = .ok (.missing found slash) →
      ∃ above name, found = above ++ [name] ∧ name.Proper ∧ name.Plain)
    (place : Place) (names : List RawText) (proper : ∀ name ∈ names, name.Proper)
    (h : follow tree followLast onLink asDirectory place names = .ok (.missing found slash)) :
    ∃ above name, found = above ++ [name] ∧ name.Proper ∧ name.Plain := by
  rw [follow_ok_iff] at h
  generalize heq : Target.missing found slash = target at h
  induction h with
  | here => cases heq
  | dot _ ih => exact ih (List.forall_mem_cons.1 proper).2 heq
  | up _ ih => exact ih (List.forall_mem_cons.1 proper).2 heq
  | down _ _ _ _ ih => exact ih (List.forall_mem_cons.1 proper).2 heq
  | through plain fits inner followed onward =>
      cases heq
      refine links _ _ (fun name hname => ?_) onward
      rcases List.mem_append.1 hname with inLink | behind
      · exact RawText.proper_of_mem_names inLink
      · exact proper name (List.mem_cons_of_mem _ behind)
  | link => cases heq
  | leaf => cases heq
  | missing plain fits absent =>
      cases heq
      exact ⟨_, _, rfl, proper _ List.mem_cons_self, plain⟩

theorem followWithin_missing (links : Nat) (route : Route) (slash : Bool)
    (proper : ∀ name ∈ route.names, name.Proper)
    (h : followWithin tree followLast links route = .ok (.missing found slash)) :
    ∃ above name, found = above ++ [name] ∧ name.Proper ∧ name.Plain := by
  induction links generalizing route slash with
  | zero => exact follow_missing (fun _ _ _ h => by cases h) _ _ proper h
  | succ links ih => exact follow_missing ih _ _ proper h

/-- If nothing but a directory was put where names led to a missing name, they lead to a directory
once they lead to an entry, links and a slash at their end taken into account. -/
theorem follow_made (grows : before.Grows after)
    (made : ∀ standing, after.at? found = some standing → standing.isDirectory = true)
    (links : ∀ route slash asDirectory', onLink route = .ok (.missing found slash) →
      onLink' { route with asDirectory := asDirectory' } = .ok (.found origin entry) →
      entry.isDirectory = true)
    (place : Place) (names : List RawText)
    (h : follow before followLast onLink asDirectory place names = .ok (.missing found slash))
    (reached : follow after true onLink' asDirectory' place names = .ok (.found origin entry)) :
    entry.isDirectory = true := by
  rw [follow_ok_iff] at h
  generalize heq : Target.missing found slash = target at h
  induction h with
  | here => cases heq
  | dot _ ih =>
      rw [follow_dot] at reached
      exact ih reached heq
  | up _ ih =>
      rw [follow_up] at reached
      exact ih reached heq
  | down plain fits inner _ ih =>
      obtain ⟨_, inner', same⟩ := grows.stays _ _ inner
      obtain ⟨attributes', rfl⟩ := Entry.sameKind_directory.1 same
      rw [follow_down plain fits inner'] at reached
      exact ih reached heq
  | through plain fits inner followed onward =>
      cases heq
      obtain ⟨_, inner', same⟩ := grows.stays _ _ inner
      obtain ⟨modified', rfl⟩ := Entry.sameKind_link.1 same
      simp only [follow_cons plain fits, inner', Bool.not_true, Bool.and_false,
        Bool.false_eq_true, if_false] at reached
      exact links _ _ _ onward reached
  | link => cases heq
  | leaf => cases heq
  | @missing place name plain fits absent =>
      -- Here the name is missing, and what stands here now is a directory.
      cases heq
      cases hat : after.at? (place ++ [name]) with
      | none =>
          simp only [follow_cons plain fits, hat] at reached
          cases reached
      | some standing =>
          have directory := made _ hat
          cases standing with
          | directory attributes =>
              rw [follow_down plain fits hat, follow, hat] at reached
              cases reached
              rfl
          | file => cases directory
          | link => cases directory
          | special => cases directory

theorem followWithin_made (grows : before.Grows after)
    (made : ∀ standing, after.at? found = some standing → standing.isDirectory = true)
    (links : Nat) (route : Route) (slash asDirectory' : Bool)
    (h : followWithin before followLast links route = .ok (.missing found slash))
    (reached : followWithin after true links { route with asDirectory := asDirectory' } =
      .ok (.found origin entry)) : entry.isDirectory = true := by
  induction links generalizing route slash asDirectory' with
  | zero => exact follow_made grows made (fun _ _ _ h => by cases h) _ _ h reached
  | succ links ih => exact follow_made grows made ih _ _ h reached

end

/-! ## Directories -/

variable {fs next : FileSystem} {path : String} {place : Place} {entry : Entry} {mode : UInt32}

theorem isDirectory_of_locate {path : RawText} (h : fs.locate path = .ok (place, entry))
    (directory : entry.isDirectory = true) : fs.isDirectory path = true := by
  unfold FileSystem.isDirectory FileSystem.entry
  rw [h]
  exact directory

/-- Where a directory was made, nothing but a directory is found. -/
theorem isDirectory_of_makeDirectory {path : RawText} (made : fs.makeDirectory path = .ok next)
    (reached : next.locate path = .ok (place, entry)) : next.isDirectory path = true := by
  refine isDirectory_of_locate reached ?_
  have keeps := keeps_of_makeDirectory made
  simp only [makeDirectory, Except.bind_ok_iff] at made
  obtain ⟨target, led, made⟩ := made
  cases target with
  | found place' entry' => cases made
  | missing found slash =>
      cases made
      have absent : fs.tree.at? found = none := holds_of_resolveLast led
      obtain ⟨-, -, missing⟩ := Except.bind_ok_iff.1 led
      have arrives := (locate_ok_iff.1 reached).2
      rw [keeps.grows.here] at arrives
      refine followWithin_made keeps.grows.tree (fun standing hat => ?_) _ _ _ _ missing arrives
      -- Where no directory can be put, nothing stands.
      let fresh : Entry := .directory ⟨fs.now, Entry.newDirectoryMode⟩
      by_cases admits : fs.tree.admits found fresh = true
      · have filled : (fs.put found fresh).tree.at? found = some fresh := by
          rw [put, FileTree.at?_put admits, if_pos rfl]
        obtain ⟨_, added, same⟩ := (keeps_touch _ found.dropLast).grows.tree.stays _ _ filled
        cases added.symm.trans hat
        exact same.isDirectory
      · rw [add_eq_self admits absent, absent] at hat
        cases hat

theorem isDirectory_of_attempt (h : fs.attempt path = .present) : fs.isDirectory path = true := by
  unfold attempt at h
  split at h
  · cases h
  · split at h
    · cases h
    · split at h
      · assumption
      · cases h

/-- The last of the directories that are made one after the other. -/
theorem isDirectory_of_makeEach {front : List String}
    (made : fs.makeEach (front ++ [path]) = (next, .ok ()))
    (reached : next.locate path = .ok (place, entry)) : next.isDirectory path = true := by
  induction front generalizing fs with
  | nil =>
      simp only [List.nil_append, makeEach] at made
      split at made
      · next single =>
        cases made
        exact isDirectory_of_makeDirectory single reached
      · split at made
        · next present =>
          cases made
          exact present
        · cases made
  | cons first front ih =>
      simp only [List.cons_append, makeEach] at made
      split at made
      · exact ih made
      · split at made
        · exact ih made
        · cases made

theorem isDirectory_of_makeFrom (front above : List String)
    (made : fs.makeFrom (front ++ [path]) above = (next, .ok ()))
    (reached : next.locate path = .ok (place, entry)) : next.isDirectory path = true := by
  induction above generalizing front with
  | nil => exact isDirectory_of_makeEach made reached
  | cons first above ih =>
      simp only [makeFrom] at made
      split at made
      · exact isDirectory_of_makeEach made reached
      · exact isDirectory_of_makeEach made reached
      · exact ih (first :: front) made
      · cases made

/-- **Where directories were made, nothing but a directory is found.** -/
theorem isDirectory_of_createDirectories (made : fs.createDirectories path = (next, .ok ()))
    (reached : next.locate path = .ok (place, entry)) : next.isDirectory path = true := by
  unfold createDirectories at made
  rw [if_neg (by simpa using ne_empty_of_locate reached)] at made
  simp only [makeFrom] at made
  split at made
  · next tried =>
    cases made
    exact isDirectory_of_makeDirectory (makeDirectory_of_attempt tried) reached
  · next present =>
    cases made
    exact isDirectory_of_attempt present
  · exact isDirectory_of_makeFrom [] _ made reached
  · cases made

/-! ## Permission bits -/

/-- Permission bits are set on what a path leads to, and all else stays as it was. -/
theorem put_of_setMode {path : RawText} (h : fs.setMode path mode = .ok next) :
    ∃ place old entry, fs.locate path = .ok (place, old) ∧ old.SameKind entry ∧
      next = fs.put place entry := by
  obtain ⟨⟨place, old⟩, led, h⟩ := Except.bind_ok_iff.1 h
  cases old with
  | directory =>
      cases h
      exact ⟨place, _, .directory _, led, trivial, rfl⟩
  | file =>
      cases h
      exact ⟨place, _, .file .., led, rfl, rfl⟩
  | special =>
      cases h
      exact ⟨place, _, .special .., led, rfl, rfl⟩
  | link => cases h

theorem grows_of_setMode {path : RawText} (h : fs.setMode path mode = .ok next) :
    fs.Grows next := by
  obtain ⟨place, old, entry, led, same, rfl⟩ := put_of_setMode h
  have stands := holds_of_locate led
  refine grows_put (fun other hother => ?_) fun absent => ?_
  · cases stands.symm.trans hother
    exact same
  · rw [stands] at absent
    cases absent

end ArtifactStaging.FileSystem
