/-
# ArtifactStaging.Proofs.FileSystem.LastName -- the name at the end of the path of a file

A path has two last names.  One is its last component, which the system names a file by:
single dots do not count, so that of `a/b/.` is `b`.  The other is whatever stands behind
its last slash, which a location is called by: there it is the dot.

Where the path leads to anything but a directory the two are one.  Behind a name that leads
down, dots at the end can only lead to a directory (`followWithin_isDirectory`): the place
reached before them holds something, or the way there ends, and every further name starts
from a directory.  So a path with a file name that leads to no directory ends in that name
(`getLast?_names_of_entry`), and a location on that path is called by it (`name_of_entry`).
From a working directory that is one, what leads to no directory has a file name
(`fileName?_ne_none_of_entry`).
-/
import ArtifactStaging.Proofs.FileSystem.Resolution

set_option autoImplicit false

namespace ArtifactStaging

/-! ## Paths that end in dots -/

namespace FileSystem

open RawText (Plain)

variable {tree : FileTree} {followLast asDirectory : Bool}
  {onLink : Route → Except IoCause Target} {names : List RawText} {name : RawText}

/-- No name that leads down stands last: if any does, it is one dot or two. -/
def EndsInDots (names : List RawText) : Prop := ∀ last ∈ names.getLast?, ¬ Plain last

theorem EndsInDots.tail (h : EndsInDots (name :: names)) : EndsInDots names := by
  intro last hlast
  exact h last (by rw [List.getLast?_cons, hlast]; rfl)

/-- Behind a name that leads down more are to come. -/
theorem EndsInDots.ne_nil (h : EndsInDots (name :: names)) (plain : Plain name) : names ≠ [] := by
  rintro rfl
  exact h name rfl plain

theorem EndsInDots.append (h : EndsInDots names) (more : names ≠ []) (front : List RawText) :
    EndsInDots (front ++ names) := by
  intro last hlast
  rw [List.getLast?_append_of_ne_nil _ more] at hlast
  exact h last hlast

/-- A route goes on from a directory and does not end in a name that is looked up. -/
structure Route.Lingers (tree : FileTree) (route : Route) : Prop where
  start : tree.isDirectory route.start = true
  names : EndsInDots route.names

/-- The route on from a link starts in the directory of the link or at the root. -/
theorem Route.lingers_throughLink {place : Place} {target : RawText} {modified : Int64}
    (link : tree.at? (place ++ [name]) = some (.link target modified)) (h : EndsInDots names)
    (more : names ≠ []) (asDirectory : Bool) :
    (Route.throughLink place target names asDirectory).Lingers tree where
  start := by
    have held := FileTree.isDirectory_dropLast_of_at? link
    rw [List.dropLast_concat] at held
    simp only [throughLink, ofPath]
    split
    · exact tree.root
    · exact held
  names := h.append more _

/-- From a directory, names that end in dots lead to nothing but directories. -/
theorem follow_isDirectory
    (links : ∀ route place entry, Route.Lingers tree route →
      onLink route = .ok (.found place entry) → entry.isDirectory = true)
    {found : Place} {entry : Entry} (place : Place) (names : List RawText)
    (start : tree.isDirectory place = true) (ends : EndsInDots names)
    (h : follow tree followLast onLink asDirectory place names = .ok (.found found entry)) :
    entry.isDirectory = true := by
  rw [follow_ok_iff] at h
  generalize heq : Target.found found entry = target at h
  induction h with
  | here stands =>
      cases heq
      rw [FileTree.isDirectory_eq] at start
      simpa [stands] using start
  | dot _ ih => exact ih start ends.tail heq
  | up _ ih => exact ih (FileTree.isDirectory_dropLast start) ends.tail heq
  | down _ _ inner _ ih => exact ih (FileTree.isDirectory_of_at? inner) ends.tail heq
  | through plain _ inner _ onward =>
      cases heq
      exact links _ _ _ (Route.lingers_throughLink inner ends.tail (ends.ne_nil plain) _) onward
  | link plain => exact absurd rfl (ends.ne_nil plain)
  | leaf plain => exact absurd rfl (ends.ne_nil plain)
  | missing plain => exact absurd rfl (ends.ne_nil plain)

theorem followWithin_isDirectory_of_lingers (links : Nat) (route : Route) (place : Place)
    (entry : Entry) (lingers : route.Lingers tree)
    (h : followWithin tree followLast links route = .ok (.found place entry)) :
    entry.isDirectory = true := by
  induction links generalizing route place entry with
  | zero => exact follow_isDirectory (fun _ _ _ _ h => by cases h) _ _ lingers.start lingers.names h
  | succ links ih => exact follow_isDirectory ih _ _ lingers.start lingers.names h

/-- Wherever they start, names that lead down and end in dots do so too: the first of them is
found in a directory or is one. -/
theorem follow_isDirectory_of_plain
    (links : ∀ route place entry, Route.Lingers tree route →
      onLink route = .ok (.found place entry) → entry.isDirectory = true)
    {found : Place} {entry : Entry} (place : Place) (names : List RawText)
    (down : ∃ name ∈ names, Plain name) (ends : EndsInDots names)
    (h : follow tree followLast onLink asDirectory place names = .ok (.found found entry)) :
    entry.isDirectory = true := by
  rw [follow_ok_iff] at h
  generalize heq : Target.found found entry = target at h
  have later {name : RawText} {rest : List RawText} (down : ∃ other ∈ name :: rest, Plain other)
      (bare : ¬ Plain name) : ∃ other ∈ rest, Plain other := by
    obtain ⟨other, hother, plain⟩ := down
    rcases List.mem_cons.1 hother with rfl | hother
    · exact absurd plain bare
    · exact ⟨other, hother, plain⟩
  induction h with
  | here => simp at down
  | dot _ ih => exact ih (later down fun plain => plain.1 rfl) ends.tail heq
  | up _ ih => exact ih (later down fun plain => plain.2 rfl) ends.tail heq
  | down _ _ inner onward =>
      cases heq
      exact follow_isDirectory links _ _ (FileTree.isDirectory_of_at? inner) ends.tail
        (follow_ok_iff.2 onward)
  | through plain _ inner _ onward =>
      cases heq
      exact links _ _ _ (Route.lingers_throughLink inner ends.tail (ends.ne_nil plain) _) onward
  | link plain => exact absurd rfl (ends.ne_nil plain)
  | leaf plain => exact absurd rfl (ends.ne_nil plain)
  | missing plain => exact absurd rfl (ends.ne_nil plain)

theorem followWithin_isDirectory (links : Nat) (route : Route) (place : Place) (entry : Entry)
    (down : ∃ name ∈ route.names, Plain name) (ends : EndsInDots route.names)
    (h : followWithin tree followLast links route = .ok (.found place entry)) :
    entry.isDirectory = true := by
  cases links with
  | zero => exact follow_isDirectory_of_plain (fun _ _ _ _ h => by cases h) _ _ down ends h
  | succ links =>
      exact follow_isDirectory_of_plain (followWithin_isDirectory_of_lingers links) _ _ down ends h

end FileSystem

/-! ## The name of a file -/

namespace PathText

variable {path name last : String}

/-- A last name that is no dot is the last component. -/
theorem lastComponent?_of_getLast? (h : (names path).getLast? = some last) (hlast : last ≠ ".") :
    lastComponent? path = some last := by
  obtain ⟨front, hnames⟩ := List.getLast?_eq_some_iff.1 h
  rw [lastComponent?, components, hnames]
  cases front with
  | nil => simp [hlast]
  | cons first front =>
      dsimp only [List.cons_append]
      split <;> simp [List.filter_append, hlast, List.getLast?_cons]

/-- A path with a file name leads down. -/
theorem leadsDown_of_fileName? (named : fileName? path = some name) :
    ∃ name ∈ (RawText.of path).names, name.Plain := by
  obtain ⟨hcomponent, -⟩ := Option.filter_eq_some_iff.1 named
  refine ⟨name, ?_, RawText.plain_of.2 (names_of_fileName? named).1⟩
  rw [RawText.names_of]
  exact List.mem_map_of_mem (mem_names_of_lastComponent? hcomponent)

theorem endsInDots_of_getLast? (hlast : (names path).getLast? = some last)
    (dots : ¬ Plain last) : FileSystem.EndsInDots (RawText.of path).names := by
  intro other hother plain
  rw [RawText.names_of, List.getLast?_map, hlast] at hother
  cases hother
  exact dots (RawText.plain_of.1 plain)

/-- The file name of a path that leads to no directory is the last of its names. -/
theorem getLast?_names_of_entry {fs : FileSystem} {entry : Entry}
    (seen : fs.entry path = .ok entry) (other : entry.isDirectory = false)
    (named : fileName? path = some name) : (names path).getLast? = some name := by
  obtain ⟨hcomponent, -⟩ := Option.filter_eq_some_iff.1 named
  cases hlast : (names path).getLast? with
  | none =>
      have hnames := List.getLast?_eq_none_iff.1 hlast
      rw [lastComponent?, components, hnames] at hcomponent
      cases hcomponent
  | some last =>
      by_cases hdot : last = "."
      · -- A dot at the end would make the file a directory.
        obtain ⟨⟨place, _⟩, led, rfl⟩ := Except.map_ok_iff.1 seen
        have hdirectory := FileSystem.followWithin_isDirectory _
          (FileSystem.Route.ofPath fs.here path) _ _
          (leadsDown_of_fileName? named)
          (endsInDots_of_getLast? hlast fun plain => plain.1 hdot)
          (FileSystem.locate_ok_iff.1 led).2
        rw [hdirectory] at other
        cases other
      · rw [← lastComponent?_of_getLast? hlast hdot, hcomponent]

/-- A path without a file name ends in dots. -/
theorem endsInDots_of_fileName? (unnamed : fileName? path = none) :
    FileSystem.EndsInDots (RawText.of path).names := by
  cases hlast : (names path).getLast? with
  | none =>
      intro last hother
      rw [RawText.names_of, List.getLast?_map, hlast] at hother
      cases hother
  | some last =>
      refine endsInDots_of_getLast? hlast fun plain => ?_
      have hcomponent := lastComponent?_of_getLast? hlast plain.1
      rw [fileName?, hcomponent, Option.filter_some, if_pos (by simpa [Plain] using plain)]
        at unnamed
      cases unnamed

/-- What leads to no directory has a file name, if the path starts in a directory. -/
theorem fileName?_ne_none_of_entry {fs : FileSystem} {entry : Entry}
    (start : fs.tree.isDirectory fs.here = true) (seen : fs.entry path = .ok entry)
    (other : entry.isDirectory = false) : fileName? path ≠ none := by
  intro unnamed
  obtain ⟨⟨place, _⟩, led, rfl⟩ := Except.map_ok_iff.1 seen
  have lingers : (FileSystem.Route.ofPath fs.here path).Lingers fs.tree := by
    refine ⟨?_, endsInDots_of_fileName? unnamed⟩
    simp only [FileSystem.Route.ofPath]
    split
    · exact fs.tree.root
    · exact start
  rw [FileSystem.followWithin_isDirectory_of_lingers _ _ _ _ lingers
    (FileSystem.locate_ok_iff.1 led).2] at other
  cases other

end PathText

namespace Location

variable {source : Location}

/-- The name of what is read, the root apart, is the last of the names of its path. -/
theorem getLast?_names (normal : source.Normal) (h : source.isRoot = false) :
    (PathText.names source.path).getLast? = some source.name := by
  obtain ⟨inhabited, whole⟩ := normal.name h
  have single := PathText.names_eq_singleton inhabited whole
  rw [name, if_neg (by simp [h]), Text.lastSegment] at single ⊢
  split at single
  · next before after hcut =>
    obtain ⟨hpath, -⟩ := Text.cutLast?_eq_some hcut
    have hnames := PathText.names_append (String.ofList before) (String.ofList after)
    rw [show String.ofList before ++ "/" ++ String.ofList after = source.path from
      String.toList_inj.1 (by simp [hpath]), single] at hnames
    rw [hnames, List.getLast?_concat]
  · next hcut => rw [single, List.getLast?_singleton]

/-- A location that leads to no directory is called by its file name. -/
theorem name_of_entry {fs : FileSystem} {entry : Entry} {fileName : String}
    (normal : source.Normal) (seen : fs.entry source.path = .ok entry)
    (other : entry.isDirectory = false)
    (named : PathText.fileName? source.path = some fileName) : source.name = fileName := by
  have hlast := PathText.getLast?_names_of_entry seen other named
  have inner : source.isRoot = false := by
    rw [← Bool.not_eq_true]
    intro root
    rw [eq_of_beq root, show PathText.names "/" = [] by decide] at hlast
    cases hlast
  exact Option.some.inj ((getLast?_names normal inner).symm.trans hlast)

end Location

end ArtifactStaging
