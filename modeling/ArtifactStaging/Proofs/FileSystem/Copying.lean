/-
# ArtifactStaging.Proofs.FileSystem.Copying -- what a copy leaves in its two files

A path that leads to a missing name leads to whatever is put there (`followWithin_filled`), and one
that leads to a file still does after that file was written.  So after a copy its destination leads
to what took the bytes: a file, or a pipe or a device that keeps none (`locate_of_received`).

What the files hold then depends on one thing only: whether the two paths `LeadTogether`, to one
file, be it by one place, by a link or by two names of it.  If they do not, the source holds what it
held and so does a file at the destination; if they do, the one file holds nothing, since it was
cut before it was read (`copy_contents`).
-/
import ArtifactStaging.Proofs.FileSystem.Growth

set_option autoImplicit false

namespace ArtifactStaging

/-- A file may be written where a file stands. -/
theorem FileTree.admits_file {tree : FileTree} {place : Place} {number number' : Nat}
    {content content' : Content} {attributes attributes' : Attributes}
    (h : tree.at? place = some (.file number content attributes)) :
    tree.admits place (.file number' content' attributes') = true := by
  have held : tree.isDirectory place.dropLast = true := isDirectory_dropLast_of_at? h
  have other : tree.isDirectory place = false := by
    rw [isDirectory_eq, h]
    rfl
  rw [admits, held, other]
  rfl

namespace FileSystem

/-! ## Missing names that are filled -/

section

variable {before after : FileTree} {followLast asDirectory : Bool}
  {onLink onLink' : Route → Except IoCause Target} {found : Place} {entry : Entry}

/-- Names that lead to a missing name lead to what is put there. -/
theorem follow_filled (grows : before.Grows after) (filled : after.at? found = some entry)
    (leaf : entry.IsLeaf)
    (links : ∀ route, onLink route = .ok (.missing found false) →
      onLink' route = .ok (.found found entry))
    (place : Place) (names : List RawText)
    (h : follow before followLast onLink asDirectory place names = .ok (.missing found false)) :
    follow after followLast onLink' asDirectory place names = .ok (.found found entry) := by
  simp only [follow_ok_iff] at h ⊢
  generalize heq : Target.missing found false = target at h
  induction h with
  | here => cases heq
  | dot _ ih => exact .dot (ih heq)
  | up _ ih => exact .up (ih heq)
  | down plain fits inner _ ih =>
      obtain ⟨_, inner', same⟩ := grows.stays _ _ inner
      obtain ⟨attributes', rfl⟩ := Entry.sameKind_directory.1 same
      exact .down plain fits inner' (ih heq)
  | through plain fits inner followed onward =>
      cases heq
      obtain ⟨_, inner', same⟩ := grows.stays _ _ inner
      obtain ⟨modified', rfl⟩ := Entry.sameKind_link.1 same
      exact .through plain fits inner' followed (links _ onward)
  | link => cases heq
  | leaf => cases heq
  | missing plain fits absent =>
      cases heq
      exact .leaf plain fits filled leaf rfl

theorem followWithin_filled (grows : before.Grows after) (filled : after.at? found = some entry)
    (leaf : entry.IsLeaf) (links : Nat) (route : Route)
    (h : followWithin before followLast links route = .ok (.missing found false)) :
    followWithin after followLast links route = .ok (.found found entry) := by
  induction links generalizing route with
  | zero => exact follow_filled grows filled leaf (fun _ h => by cases h) _ _ h
  | succ links ih => exact follow_filled grows filled leaf ih _ _ h

end

/-! ## Looking up paths -/

variable {fs next later written : FileSystem} {path source destination : RawText} {place : Place}
  {entry : Entry} {content : Content} {bits : Option UInt32 → UInt32} {target : Target}

theorem holds_of_locate (h : fs.locate path = .ok (place, entry)) :
    fs.tree.at? place = some entry :=
  followWithin_holds _ _ _ (locate_ok_iff.1 h).2

/-- What is no directory is found later where it was, as it was. -/
theorem Keeps.locate (keeps : fs.Keeps later) (h : fs.locate path = .ok (place, entry))
    (other : entry.isDirectory = false) : later.locate path = .ok (place, entry) := by
  obtain ⟨entry', led, -⟩ := keeps.grows.locate h
  rw [led, Option.some.inj ((holds_of_locate led).symm.trans
    (keeps.stays _ _ (holds_of_locate h) other))]

theorem readFile_file {number : Nat} {attributes : Attributes}
    (led : fs.locate path = .ok (place, .file number content attributes)) :
    fs.readFile path = .ok content := by
  simp only [readFile, FileSystem.entry, led]
  rfl

/-- A path that was opened for writing leads to what is written, and names no directory. -/
theorem led_of_resolveForWriting (h : fs.resolveForWriting path = .ok target) :
    checkPath path = .ok () ∧
      followWithin fs.tree true linkBudget (Route.ofPath fs.here path) = .ok target ∧
      ∀ place asDirectory, target = .missing place asDirectory → asDirectory = false := by
  simp only [resolveForWriting, Except.bind_ok_iff] at h
  obtain ⟨_, checked, h⟩ := h
  split at h
  · obtain ⟨other, _, h⟩ := Except.bind_ok_iff.1 h
    cases other <;> cases h
  · obtain ⟨other, led, h⟩ := Except.bind_ok_iff.1 h
    refine ⟨checked, ?_⟩
    split at h <;> cases h
    · exact ⟨led, fun _ _ heq => by cases heq; rfl⟩
    · exact ⟨led, fun _ _ heq => by cases heq⟩

/-! ## Copies -/

/-- The number of the file that a path leads to, if it leads to one. -/
def fileOf? (fs : FileSystem) (path : RawText) : Option Nat :=
  (fs.entry path).toOption.bind Entry.number?

theorem fileOf?_of_locate (h : fs.locate path = .ok (place, entry)) :
    fs.fileOf? path = entry.number? := by
  rw [fileOf?, FileSystem.entry, h]
  rfl

/-- Two paths lead to one file. -/
def LeadTogether (fs : FileSystem) (first second : RawText) : Prop :=
  (fs.fileOf? first).isSome = true ∧ fs.fileOf? first = fs.fileOf? second

instance (fs : FileSystem) (first second : RawText) : Decidable (fs.LeadTogether first second) :=
  inferInstanceAs (Decidable (_ ∧ _))

/-- Two paths lead to files that hold the same. -/
def BothHold (fs : FileSystem) (first second : RawText) (content : Content) : Prop :=
  fs.readFile first = .ok content ∧ fs.readFile second = .ok content

/-- A path leads to what is neither a directory nor a link. -/
def LeadsToLeaf (fs : FileSystem) (path : RawText) : Prop :=
  ∃ place entry, fs.locate path = .ok (place, entry) ∧ entry.IsLeaf

theorem Grows.leadsToLeaf (grows : fs.Grows later) (h : fs.LeadsToLeaf path) :
    later.LeadsToLeaf path := by
  obtain ⟨place, entry, led, leaf⟩ := h
  obtain ⟨entry', led', same⟩ := grows.locate led
  exact ⟨place, entry', led', leaf.sameKind same⟩

/-- Where no file can be put, nothing changes. -/
theorem add_eq_self (h : ¬ fs.tree.admits place entry = true) (absent : fs.tree.at? place = none) :
    fs.add place entry = fs := by
  have outside : fs.tree.isDirectory place.dropLast = false := by
    have inner : fs.tree.isDirectory place = false := by
      rw [FileTree.isDirectory_eq, absent]
      rfl
    rw [FileTree.admits, inner] at h
    simpa using h
  have same : fs.put place entry = fs := by
    rw [put, FileTree.put, dif_neg h]
  rw [add, same, touch]
  split
  · next attributes hat =>
    rw [FileTree.isDirectory_of_at? hat] at outside
    cases outside
  · rfl

/-- What took the bytes: a file under the number that the target had, or a new one; or something
that keeps none. -/
def Took (fs : FileSystem) (content : Content) (target : Target) (entry : Entry) : Prop :=
  (∃ attributes, entry =
    .file (target.number?.getD fs.tree.freshNumber) content attributes) ∨
  target.number? = none ∧ ∃ kind attributes, entry = .special kind attributes

theorem Took.isLeaf (h : Took fs content target entry) : entry.IsLeaf := by
  rcases h with ⟨attributes, rfl⟩ | ⟨-, kind, attributes, rfl⟩
  · exact Entry.isLeaf_file
  · exact Entry.isLeaf_special

/-- A path that was opened for writing leads to what took the bytes, as long as it leads
anywhere. -/
theorem locate_of_received (opened : fs.resolveForWriting path = .ok target)
    (received : Receives fs content bits target written)
    (reached : ∃ found, written.locate path = .ok found) :
    ∃ place entry, written.locate path = .ok (place, entry) ∧ Took fs content target entry := by
  obtain ⟨checked, led, proper⟩ := led_of_resolveForWriting opened
  have grows := received.grows
  cases received with
  | @replaced place number old attributes stands =>
      obtain ⟨entry, led', -⟩ := grows.locate (locate_ok_iff.2 ⟨checked, led⟩)
      refine ⟨place, entry, led', .inl ⟨⟨fs.now, bits (some attributes.mode)⟩, ?_⟩⟩
      have hentry := holds_of_locate led'
      rw [put, FileTree.at?_put (FileTree.admits_file stands), if_pos rfl] at hentry
      exact (Option.some.inj hentry).symm
  | @new place asDirectory absent =>
      obtain rfl := proper _ _ rfl
      let entry : Entry := .file fs.tree.freshNumber content ⟨fs.now, bits none⟩
      by_cases admits : fs.tree.admits place entry = true
      · have filled : (fs.add place entry).tree.at? place = some entry := by
          refine (keeps_touch _ _).stays _ _ ?_ rfl
          rw [put, FileTree.at?_put admits, if_pos rfl]
        refine ⟨place, entry, locate_ok_iff.2 ⟨checked, ?_⟩, .inl ⟨_, rfl⟩⟩
        rw [grows.here]
        exact followWithin_filled grows.tree filled Entry.isLeaf_file _ _ led
      · -- Where no file can be put, the name is still missing.
        obtain ⟨⟨place', entry'⟩, led'⟩ := reached
        rw [add_eq_self admits absent] at led'
        cases led.symm.trans (locate_ok_iff.1 led').2
  | @passed place kind attributes =>
      exact ⟨place, _, locate_ok_iff.2 ⟨checked, led⟩, .inr ⟨rfl, kind, attributes, rfl⟩⟩

/-- What stands at the source once the bytes are written. -/
theorem source_of_received {origin : Place} {number : Nat} {held : Content}
    {attributes : Attributes} (led : fs.locate source = .ok (origin, .file number held attributes))
    (received : Receives fs content bits target written) :
    ∃ attributes', written.locate source =
      .ok (origin, .file number (if target.number? = some number then content else held)
        attributes') := by
  have stood := holds_of_locate led
  obtain ⟨later, led', same⟩ := received.grows.locate led
  obtain ⟨content', attributes', rfl⟩ := Entry.sameKind_file.1 same
  have stands := holds_of_locate led'
  refine ⟨attributes', ?_⟩
  rw [led']
  by_cases other : target.number? = none
  · cases ((received.keeps other).stays _ _ stood rfl).symm.trans stands
    simp [other]
  cases received with
  | new => exact absurd rfl other
  | passed => exact absurd rfl other
  | @replaced place number' old before held' =>
      rw [put, FileTree.at?_put (FileTree.admits_file held'), stood] at stands
      by_cases one : number' = number
      · subst one
        have rewritten : Entry.afterWriting
            (.file number' content ⟨fs.now, bits (some before.mode)⟩)
            (.file number' held attributes) = .file number' content _ :=
          if_pos (Entry.sameFile_iff.2 ⟨_, _, _, _, _, rfl, rfl⟩)
        rw [Option.map_some, rewritten, ite_self] at stands
        cases stands
        simp [Target.number?, Entry.number?]
      · have elsewhere : place ≠ origin := by
          rintro rfl
          cases held'.symm.trans stood
          exact one rfl
        have apart : Entry.sameFile (.file number' content ⟨fs.now, bits (some before.mode)⟩)
            (.file number held attributes) = false := by
          simp [Entry.sameFile, Entry.number?, one]
        rw [if_neg elsewhere, Option.map_some, Entry.afterWriting_of_apart apart] at stands
        cases stands
        simp [Target.number?, Entry.number?, one]

/-- What was copied ends its path, as long as the path leads anywhere. -/
theorem leadsToLeaf_of_copy (copied : fs.copy source destination = .ok next)
    (reached : ∃ found, next.locate destination = .ok found) : next.LeadsToLeaf destination := by
  obtain ⟨_, _, _, _, target, written, -, opened, received, rfl⟩ := copy_ok_iff.1 copied
  obtain ⟨place, entry, led, took⟩ := locate_of_received opened received reached
  exact ⟨place, entry, led, took.isLeaf⟩

/-- **What a copy leaves.**  After a copy to where a path leads, the source holds what it held, and
so does the destination if it leads to a file, unless the two lead to one file.  Then they hold
nothing. -/
theorem copy_contents (copied : fs.copy source destination = .ok next)
    (reached : ∃ found, next.locate destination = .ok found)
    (held : fs.readFile source = .ok content) :
    (next.LeadTogether source destination → next.BothHold source destination Content.empty) ∧
      (¬next.LeadTogether source destination → next.readFile source = .ok content ∧
        (next.isFile destination = true → next.readFile destination = .ok content)) := by
  obtain ⟨origin, number, content', attributes, target, written, led, opened, received, heq⟩ :=
    copy_ok_iff.1 copied
  cases (readFile_file led).symm.trans held
  have same (path : RawText) : next.locate path = written.locate path := by
    rw [heq]
    rfl
  obtain ⟨place, entry, reaches, took⟩ :=
    locate_of_received opened received (by simpa only [same] using reached)
  obtain ⟨attributes', stays⟩ := source_of_received led received
  rw [← same] at reaches stays
  have apart : number ≠ fs.tree.freshNumber :=
    Nat.ne_of_lt (FileTree.number_lt_freshNumber (holds_of_locate led) rfl)
  have sourceHolds := readFile_file stays
  rw [LeadTogether, fileOf?_of_locate stays, fileOf?_of_locate reaches]
  rcases took with ⟨attributes'', rfl⟩ | ⟨other, kind, attributes'', rfl⟩
  · have destinationHolds := readFile_file reaches
    by_cases one : target.number? = some number
    · simp only [one, if_true] at sourceHolds destinationHolds
      refine ⟨fun _ => ⟨sourceHolds, destinationHolds⟩, fun other => absurd ?_ other⟩
      simp [one, Entry.number?]
    · simp only [one, if_false] at sourceHolds destinationHolds
      refine ⟨fun together => absurd ?_ one, fun _ => ⟨sourceHolds, fun _ => destinationHolds⟩⟩
      have same := together.2
      cases htarget : target.number? with
      | none =>
          rw [htarget] at same
          exact absurd (Option.some.inj same) apart
      | some other =>
          rw [htarget] at same
          exact same.symm
  · rw [other, if_neg (by simp)] at sourceHolds
    refine ⟨fun together => absurd together.2 (by simp [Entry.number?]),
      fun _ => ⟨sourceHolds, fun file => ?_⟩⟩
    simp [isFile, FileSystem.entry, reaches, Except.map, Except.toOption, Entry.isFile] at file

end FileSystem

end ArtifactStaging
