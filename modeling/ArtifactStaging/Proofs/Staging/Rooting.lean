/-
# ArtifactStaging.Proofs.Staging.Rooting -- where destinations lie

A destination goes on from the logical root with a segment that the input has given it
(`Plan.heading?`): the name of an input that is no directory, and of a directory the last component
of its path, or, for a remote one that has a parent, its name.  Then come the names that lead to the
file in the directory, as far as they are kept (`Plan.kept`).  All names but the heading lead
down, so a destination leads to where the heading does, and on from there
(`Plan.leads_destination`).

What a heading may be is up to how the input is written.  Two dots go up from the logical root, as
in `d/..`; a dot, or none for want of a name, stays there, which is beneath the root only if
names follow.  So destinations lie strictly beneath the logical root for the inputs that
`StaysBeneath` admits, and `ofInputs_rooted` says where those of all others are.
-/
import ArtifactStaging.Proofs.Staging.Confinement
import ArtifactStaging.Proofs.Staging.RemoteDirectories

set_option autoImplicit false

namespace ArtifactStaging.Plan

open FileSystem PathText

variable {root logicalRoot : String} {disk world : Disk} {input : Location}
  {inputs : List Location} {plan : List PlanEntry} {entry : PlanEntry}
  {shipped : List String}

/-! ## Headings -/

/-- The segment behind the logical root that the destinations of an input have in common. -/
def heading? (root : String) (disk : Disk) (input : Location) : Option String :=
  if disk.files.isDirectory (Disk.resolve root input) then
    match input.localPath? with
    | some path => lastComponent? path
    | none => input.parent?.map fun _ => input.name
  else if input.name = "" then none
  else some input.name

/-- What is shown of the names that lead to a file of a directory, as far as its destination keeps
them: a remote directory without a parent keeps the last. -/
def kept (input : Location) (shipped : List String) : List String :=
  if input.isRemote ∧ input.parent? = none then shipped.getLast?.toList else shipped

/-- The input is written so that its files go strictly beneath the logical root: its heading does
not go up, and goes down if it is all there is. -/
def StaysBeneath (root : String) (disk : Disk) (input : Location) : Prop :=
  heading? root disk input ≠ some ".." ∧
    (disk.files.isDirectory (Disk.resolve root input) = true ∨
      (heading? root disk input ≠ none ∧ heading? root disk input ≠ some "."))

instance (root : String) (disk : Disk) (input : Location) :
    Decidable (StaysBeneath root disk input) :=
  inferInstanceAs (Decidable (_ ∧ (_ ∨ _ ∧ _)))

/-! ## The names of a destination -/

/-- An input that is no directory has the names of the root and its heading. -/
theorem names_single (other : ¬ disk.files.isDirectory (Disk.resolve root input) = true) :
    names (single logicalRoot input).destination =
      names logicalRoot ++ (heading? root disk input).toList := by
  rw [single, names_joinRelative, heading?, if_neg other]
  by_cases unnamed : input.name = ""
  · simp [unnamed]
  · rw [if_neg unnamed, names_eq_singleton unnamed (Location.notMem_name input)]
    rfl

/-- A file of a directory has the names of the root, the heading, and those of its own that are
kept. -/
theorem names_of_entryAt? (normal : input.Normal)
    (directory : disk.files.isDirectory (Disk.resolve root input) = true)
    (inhabited : shipped ≠ []) (proper : ∀ name ∈ shipped, name ≠ "" ∧ '/' ∉ name.toList)
    (h : entryAt? logicalRoot input shipped = some entry) :
    names entry.destination =
      names logicalRoot ++ (heading? root disk input).toList ++ kept input shipped := by
  cases here : input.localPath? with
  | some path =>
    simp only [entryAt?, here] at h
    obtain ⟨source, -, rfl⟩ := Option.map_eq_some_iff.1 h
    have near := (Location.localPath?_eq_some.1 here).1
    have heading : heading? root disk input = lastComponent? path := by
      rw [heading?, if_pos directory, here]
    rw [heading, names_joinRelative, names_join_lastComponent? path proper, kept]
    simp [near]
  | none =>
    -- The entry is that of a status with the path of the file.
    have made : ofRemote logicalRoot input.parent?
        ⟨input.join (Text.join "/" shipped), 0, 0, false⟩ = _ :=
      ofRemote_eq normal inhabited proper rfl
    have far := Location.localPath?_eq_none.1 here
    simp only [entryAt?, here] at h
    have hentry := (Option.some.inj h).symm.trans made
    have heading : heading? root disk input = input.parent?.map fun _ => input.name := by
      rw [heading?, if_pos directory, here]
    rw [heading, hentry, names_joinRelative, keptPlace, kept]
    cases hparent : input.parent? with
    | none =>
        obtain hnil | ⟨parts, last, rfl⟩ := List.eq_nil_or_concat shipped
        · exact absurd hnil inhabited
        rw [List.concat_eq_append] at proper ⊢
        obtain ⟨written, whole⟩ := proper last (by simp)
        simp [far, names_eq_singleton written whole]
    | some parent =>
        have named := normal.name (Location.isRoot_of_parent? hparent)
        simp [far, names_joinRelative, names_eq_singleton named.1 named.2,
          PathText.names_join proper]

/-! ## Where destinations lead -/

theorem leads_heading (plain : ∀ name ∈ names logicalRoot, Plain name)
    (rooted : names logicalRoot ≠ []) (heading : Option String) :
    Leads (names logicalRoot ++ heading.toList)
      (walk (names logicalRoot) heading.toList) := by
  cases heading with
  | none => simpa using leads_of_plain plain
  | some name => exact (leads_of_plain plain).step rooted name

/-- Where the destination of an entry leads: to where the heading does, and for a file of a
directory on from there by the names that are kept. -/
theorem leads_destination (normal : input.Normal) (wellNamed : disk.files.tree.WellNamed)
    (plain : ∀ name ∈ names logicalRoot, Plain name)
    (rooted : names logicalRoot ≠ [])
    (brings : Brings root logicalRoot disk input entry) :
    if disk.files.isDirectory (Disk.resolve root input) then
      ∃ shipped ∈ positions root disk input, shipped.shown ≠ [] ∧
        Leads (names entry.destination)
          (walk (names logicalRoot) (heading? root disk input).toList ++
            kept input shipped.shown)
    else
      Leads (names entry.destination)
        (walk (names logicalRoot) (heading? root disk input).toList) := by
  have way := leads_heading plain rooted (heading? root disk input)
  unfold Brings at brings
  by_cases directory : disk.files.isDirectory (Disk.resolve root input) = true
  · rw [if_pos directory] at brings ⊢
    obtain ⟨shipped, ships, hentry⟩ := brings
    obtain ⟨inhabited, named⟩ := shown_of_mem_shipping wellNamed ships
    refine ⟨shipped, ships, inhabited, ?_⟩
    rw [names_of_entryAt? normal directory inhabited
      (fun name hname => ⟨(named name hname).1, (named name hname).2.1⟩) hentry]
    refine way.append (leads_of_plain fun name hname => (named name ?_).2.2)
    unfold kept at hname
    split at hname
    · exact List.mem_of_getLast? (Option.mem_toList.1 hname)
    · exact hname
  · rw [if_neg directory] at brings ⊢
    rw [brings, names_single directory]
    exact way

/-- A heading that does not go up leads to the root or to one step beneath it. -/
theorem walk_heading (place : List String) {heading : Option String} (level : heading ≠ some "..") :
    ∃ more, walk place heading.toList = place ++ more ∧
      (heading ≠ none → heading ≠ some "." → more ≠ []) := by
  cases heading with
  | none => exact ⟨[], by simp, fun named => absurd rfl named⟩
  | some name =>
      by_cases dot : name = "."
      · exact ⟨[], by simp [dot, step], fun _ other => absurd (congrArg some dot) other⟩
      · have plain : Plain name := ⟨dot, fun up => level (congrArg some up)⟩
        exact ⟨[name], by simp [step_plain plain], fun _ _ => by simp⟩

theorem kept_ne_nil (inhabited : shipped ≠ []) : kept input shipped ≠ [] := by
  unfold kept
  split
  · rw [List.getLast?_eq_some_getLast inhabited]
    exact List.cons_ne_nil _ _
  · exact inhabited

/-- With a heading, a directory keeps all the names. -/
theorem kept_of_heading? {name : String}
    (directory : disk.files.isDirectory (Disk.resolve root input) = true)
    (h : heading? root disk input = some name) : kept input shipped = shipped := by
  rw [kept, if_neg]
  rintro ⟨remote, orphan⟩
  rw [heading?, if_pos directory, Location.localPath?_eq_none.2 remote, orphan] at h
  cases h

/-- Where the destination of an entry lies if its input does not stay beneath the logical root. -/
inductive Strays (root logicalRoot : String) (disk : Disk) (input : Location)
    (destination : String) : Prop
  /-- A file of a directory goes beside the last name of the root. -/
  | beside (directory : disk.files.isDirectory (Disk.resolve root input) = true)
      (up : heading? root disk input = some "..") {shipped : Place}
      (ships : shipped ∈ positions root disk input)
      (leads : Leads (names destination) ((names logicalRoot).dropLast ++ shipped.shown))
  /-- Any other input goes to what is above the root. -/
  | above (other : disk.files.isDirectory (Disk.resolve root input) = false)
      (up : heading? root disk input = some "..")
      (leads : Leads (names destination) (names logicalRoot).dropLast)
  /-- One without a name, or with a dot for a name, goes to the root itself. -/
  | itself (other : disk.files.isDirectory (Disk.resolve root input) = false)
      (level : heading? root disk input = none ∨ heading? root disk input = some ".")
      (leads : Leads (names destination) (names logicalRoot))

/-- What an input brings lies strictly beneath the logical root, or strays. -/
theorem Brings.rooted (normal : input.Normal) (wellNamed : disk.files.tree.WellNamed)
    (plain : ∀ name ∈ names logicalRoot, Plain name)
    (inhabited : names logicalRoot ≠ [])
    (brings : Brings root logicalRoot disk input entry) :
    (StaysBeneath root disk input → ∃ beneath, beneath ≠ [] ∧
      Leads (names entry.destination) (names logicalRoot ++ beneath)) ∧
    (¬ StaysBeneath root disk input → Strays root logicalRoot disk input entry.destination) := by
  have lands := leads_destination normal wellNamed plain inhabited brings
  by_cases directory : disk.files.isDirectory (Disk.resolve root input) = true
  · rw [if_pos directory] at lands
    obtain ⟨shipped, ships, nonempty, leads⟩ := lands
    refine ⟨fun stays => ?_, fun strays => ?_⟩
    · obtain ⟨more, hwalk, -⟩ := walk_heading (names logicalRoot) stays.1
      rw [hwalk, List.append_assoc] at leads
      exact ⟨_, List.append_ne_nil_of_right_ne_nil _ (kept_ne_nil nonempty), leads⟩
    · have up : heading? root disk input = some ".." :=
        not_not.1 fun level => strays ⟨level, .inl directory⟩
      rw [kept_of_heading? directory up, up] at leads
      exact .beside directory up ships (by simpa [step] using leads)
  · rw [if_neg directory] at lands
    rw [Bool.not_eq_true] at directory
    refine ⟨fun stays => ?_, fun strays => ?_⟩
    · obtain ⟨more, hwalk, down⟩ := walk_heading (names logicalRoot) stays.1
      obtain ⟨named, dot⟩ := stays.2.resolve_left (by simp [directory])
      rw [hwalk] at lands
      exact ⟨more, down named dot, lands⟩
    · by_cases up : heading? root disk input = some ".."
      · rw [up] at lands
        exact .above directory up (by simpa [step] using lands)
      · have level : heading? root disk input = none ∨ heading? root disk input = some "." := by
          by_contra down
          exact strays ⟨up, .inr (not_or.1 down)⟩
        refine .itself directory level ?_
        rcases level with unnamed | dot
        · simpa [unnamed] using lands
        · simpa [dot, step] using lands

/-- **Where the destinations of a plan lie.**  Beneath a logical root whose names all lead down, a
destination lies strictly beneath that root, whatever the file system is like, if its input
`StaysBeneath`; and every destination of an input that does not goes astray as `Strays` says. -/
theorem ofInputs_rooted (reads : ∀ input ∈ inputs, ∃ raw, Location.parse? raw = some input)
    (wellNamed : disk.files.tree.WellNamed)
    (plain : ∀ name ∈ names logicalRoot, Plain name)
    (written : Text.trimSlashes logicalRoot ≠ "")
    (planned : (ofInputs (Disk.host root) logicalRoot inputs).outcome disk = (.ok plan, world)) :
    ∀ entry ∈ plan, ∃ input ∈ inputs, Brings root logicalRoot disk input entry ∧
      (StaysBeneath root disk input → ∃ beneath, beneath ≠ [] ∧
        Leads (names entry.destination) (names logicalRoot ++ beneath)) ∧
      (¬ StaysBeneath root disk input →
        Strays root logicalRoot disk input entry.destination) := by
  intro entry hentry
  obtain ⟨input, member, brings⟩ := (mem_ofInputs_disk planned).1 hentry
  obtain ⟨raw, read⟩ := reads input member
  exact ⟨input, member, brings, brings.rooted (Location.normal_of_parse? read) wellNamed plain
    (names_ne_nil_of_trimSlashes written)⟩

end ArtifactStaging.Plan

namespace ArtifactStaging.Sample

open PathText

/-- The plan of a directory, a remote file and a local file. -/
theorem ofInputs_rooted_sample :
    ∃ plan, (Plan.ofInputs (Disk.host "r") "/l" inputs).outcome disk = (.ok plan, disk) ∧
      plan.map PlanEntry.destination = ["l/x/a", "l/x/b.jar", "l/x/d.q", "l/x/s", "l/c", "l/a"] ∧
      ∀ entry ∈ plan, ∃ beneath, beneath ≠ [] ∧
        Leads (names entry.destination) (["l"] ++ beneath) := by
  have planned : ((Plan.ofInputs (Disk.host "r") "/l" inputs).outcome disk).1.toOption.map
      (·.map PlanEntry.destination) =
        some ["l/x/a", "l/x/b.jar", "l/x/d.q", "l/x/s", "l/c", "l/a"] := by decide
  obtain ⟨plan, answered, destinations⟩ := Option.map_eq_some_iff.1 planned
  have outcome := Run.outcome_eq_of_toOption answered
  obtain ⟨unchanged, -⟩ := Plan.ofInputs_disk_ok_iff.1 outcome
  rw [unchanged] at outcome
  have reads : ∀ input ∈ inputs, ∃ raw, Location.parse? raw = some input := by
    simp only [inputs, List.forall_mem_cons]
    exact ⟨⟨"x", by decide⟩, ⟨"h:///c", by decide⟩, ⟨"y/a", by decide⟩,
      by simp⟩
  have wellNamed : disk.files.tree.WellNamed := FileTree.wellNamed_iff.2 (by decide)
  have stays : ∀ input ∈ inputs, Plan.StaysBeneath "r" disk input := by decide
  have rooted := Plan.ofInputs_rooted reads wellNamed (by decide) (by decide)
    outcome
  refine ⟨plan, outcome, destinations, fun entry hentry => ?_⟩
  obtain ⟨input, member, -, beneath, -⟩ := rooted entry hentry
  exact beneath (stays input member)

/-- A directory with a file in it. -/
def nest : Disk := ⟨⟨treeOf
  [(["d"], directory), (["d", "f"], file [49])], [], 7, 1⟩, []⟩

/-- Written `d/..`, the root sends its file to `lib/../d/f`. -/
theorem rooted_escapes :
    ¬∀ (root logicalRoot : String) (disk : Disk) (inputs : List Location) (plan : List PlanEntry),
      (∀ input ∈ inputs, ∃ raw, Location.parse? raw = some input) →
      disk.files.tree.WellNamed →
      (∀ name ∈ names logicalRoot, Plain name) → Text.trimSlashes logicalRoot ≠ "" →
      (Plan.ofInputs (Disk.host root) logicalRoot inputs).outcome disk = (.ok plan, disk) →
      ∀ entry ∈ plan, ∃ beneath, beneath ≠ [] ∧
        walk [] (names entry.destination) = walk [] (names logicalRoot) ++ beneath := by
  intro claim
  have planned : (Plan.ofInputs (Disk.host "r") "lib" [here "d/.."]).outcome nest =
      (.ok [⟨here "d/../d/f", "lib/../d/f"⟩], nest) := by decide
  have wellNamed : nest.files.tree.WellNamed := FileTree.wellNamed_iff.2 (by decide)
  have reads : ∀ input ∈ [here "d/.."], ∃ raw, Location.parse? raw = some input := by
    simp only [List.forall_mem_cons]
    exact ⟨⟨"d/..", by decide⟩, by simp⟩
  obtain ⟨beneath, -, reached⟩ := claim "r" "lib" nest _ _ reads wellNamed (by decide)
    (by decide) planned _ List.mem_cons_self
  have first := congrArg List.head? reached
  rw [show walk [] (names "lib/../d/f") = ["d", "f"] by decide,
    show walk [] (names "lib") = ["lib"] by decide] at first
  exact absurd first (by simp)

end ArtifactStaging.Sample
