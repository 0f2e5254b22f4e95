/-
# ArtifactStaging.Proofs.Location.Relative -- what lies beneath a location, and how far down

Joining and relativizing meet at the lead of a location: its path with one slash behind it, or
the one slash of the root (`lead`).  Joining puts the lead before what is
joined, trimmed; relativizing takes it off; and moving up cuts at the last slash, which is the
lead's own if a single name was joined.

* `join_found`: what was joined is what relativizing answers, trimmed, and the location is the
  parent again exactly if that holds no slash.
* `join_relativized`: what relativizing answers, joined again, leads back exactly if no slash
  stands before it.  Relativizing takes off one slash and keeps those behind it, and joining
  drops them, so the way back is the same up to empty segments.  A listing joins what it
  shows, so from there the way back is exact.
-/
import ArtifactStaging.Proofs.Location.NormalForm
import ArtifactStaging.Proofs.Staging.LocalDirectories

set_option autoImplicit false

namespace ArtifactStaging.Location

open Text

variable {location child : Location} {raw relative rest : String}

/-! ## Down and up again -/

/-- Above a path stands what lies before its last slash, or the root. -/
theorem parent?_of_path {front name : List Char} (proper : location.isRoot = false)
    (whole : '/' ∉ name) (hpath : location.path.toList = front ++ '/' :: name) :
    location.parent? =
      some { location with path := String.ofList (if front = [] then ['/'] else front) } := by
  rw [parent?, if_neg (by simp [proper]), hpath, cutLast?_append whole]
  cases front <;> rfl

/-- Above a location to which one name was joined stands the location. -/
theorem parent?_join (normal : location.Normal) (inhabited : trim '/' relative.toList ≠ [])
    (whole : '/' ∉ trim '/' relative.toList) :
    (location.join relative).parent? = some location := by
  obtain ⟨front, hlead, -, hfront⟩ := normal.lead_eq_append
  have hjoined := path_join normal inhabited
  rw [hlead, List.append_assoc] at hjoined
  have above : String.ofList (if front = [] then ['/'] else front) = location.path := by
    rcases hfront with ⟨rfl, hroot⟩ | rfl
    · exact hroot.symm
    · rw [if_neg (by simpa using normal.inhabited), String.ofList_toList]
  rw [parent?_of_path (isRoot_join normal inhabited) whole hjoined, above]
  exact congrArg some (eq_of_path scheme_join authority_join rfl)

/-- Above a location to which more than one name was joined stands another one. -/
theorem parent?_join_ne (normal : location.Normal) (slash : '/' ∈ trim '/' relative.toList) :
    (location.join relative).parent? ≠ some location := by
  have inhabited := List.ne_nil_of_mem slash
  obtain ⟨⟨before, name⟩, hcut⟩ :=
    Option.ne_none_iff_exists'.1 (mt cutLast?_eq_none.1 (not_not.2 slash))
  obtain ⟨hadded, whole⟩ := cutLast?_eq_some hcut
  -- The parent goes on behind the lead with the names before the last one, so it is too long.
  have first : (trim '/' relative.toList).head? ≠ some '/' := head?_trim
  have between : before ≠ [] := by
    rintro rfl
    exact first (by rw [hadded]; rfl)
  have hjoined := path_join normal inhabited
  rw [hadded, ← List.append_assoc] at hjoined
  rw [parent?_of_path (isRoot_join normal inhabited) whole hjoined, if_neg (by simp [between])]
  have short : location.path.toList.length ≤ location.lead.length := by
    obtain ⟨front, hlead, -, ⟨rfl, hroot⟩ | rfl⟩ := normal.lead_eq_append
    · rw [hlead, hroot]
      exact le_refl 1
    · simp [hlead]
  intro same
  have hlength := congrArg (fun above => above.path.toList.length) (Option.some.inj same)
  have := List.length_pos_iff.2 between
  simp only [String.toList_ofList, List.length_append] at hlength
  omega

/-- **What was joined is found beneath.**  From a location that was read, relativizing answers what
was joined, trimmed; and the location is the parent of what it was joined to exactly if that is a
single name. -/
theorem join_found (read : Location.parse raw = .ok location)
    (inhabited : trimSlashes relative ≠ "") :
    location.relativize? (location.join relative) = some (trimSlashes relative) ∧
    ((location.join relative).parent? = some location ↔
      '/' ∉ (trimSlashes relative).toList) := by
  have normal := normal_of_parse? (parse_ok_iff.1 read)
  have added : trim '/' relative.toList ≠ [] := by
    rwa [← toList_trimSlashes, ne_eq, String.toList_eq_nil_iff]
  rw [toList_trimSlashes]
  refine ⟨relativize?_join normal added, fun above slash => ?_, parent?_join normal added⟩
  exact parent?_join_ne normal slash above

/-- One name and then two are joined to a path without an authority. -/
theorem join_found_bare :
    Location.parse "hh:c/" = .ok ⟨some "hh", "", "c"⟩ ∧
    trimSlashes "/x//" ≠ "" ∧
    (⟨some "hh", "", "c"⟩ : Location).relativize? (Location.join ⟨some "hh", "", "c"⟩ "/x//") =
      some "x" ∧
    (Location.join ⟨some "hh", "", "c"⟩ "/x//").parent? = some ⟨some "hh", "", "c"⟩ ∧
    (Location.join ⟨some "hh", "", "c"⟩ "x/y").parent? ≠ some ⟨some "hh", "", "c"⟩ := by
  have read : Location.parse "hh:c/" = .ok ⟨some "hh", "", "c"⟩ := by decide
  have name : trimSlashes "/x//" = "x" := by decide
  have inhabited : trimSlashes "/x//" ≠ "" := by decide
  have inhabited' : trimSlashes "x/y" ≠ "" := by decide
  obtain ⟨found, above⟩ := join_found read inhabited
  obtain ⟨-, above'⟩ := join_found read inhabited'
  refine ⟨read, inhabited, ?_, above.2 (by decide), fun h => above'.1 h (by decide)⟩
  rw [found, name]

/-! ## Taken apart and joined again -/

/-- What relativizing answers for a normal location ends in no slash. -/
theorem getLast?_of_relativize? (normal : child.Normal)
    (found : location.relativize? child = some rest) : rest.toList.getLast? ≠ some '/' := by
  obtain ⟨-, -, hpath, inhabited⟩ := relativize?_eq_some.1 found
  have more : rest.toList ≠ [] := by simpa using inhabited
  intro hlast
  rw [← List.getLast?_append_of_ne_nil location.lead more, ← hpath] at hlast
  have hlength := congrArg List.length hpath
  rw [normal.trailing hlast, List.length_append] at hlength
  have := List.length_pos_iff.2 (lead_ne_nil location)
  have := List.length_pos_iff.2 more
  have : "/".toList.length = 1 := rfl
  omega

theorem trim_ne_nil_of_relativize? (normal : child.Normal)
    (found : location.relativize? child = some rest) : trim '/' rest.toList ≠ [] := by
  have more : rest.toList ≠ [] := by simpa using (relativize?_eq_some.1 found).2.2.2
  refine trim_ne_nil (List.getLast_mem more) fun slash => ?_
  apply getLast?_of_relativize? normal found
  rw [List.getLast?_eq_some_getLast more, slash]

/-- **What relativizing answers leads back** exactly if no slash stands before it. -/
theorem join_relativize?_iff (normal : location.Normal) (normal' : child.Normal)
    (found : location.relativize? child = some rest) :
    location.join rest = child ↔ rest.toList.head? ≠ some '/' := by
  obtain ⟨hscheme, hauthority, hpath, -⟩ := relativize?_eq_some.1 found
  have hjoined := path_join normal (trim_ne_nil_of_relativize? normal' found)
  constructor
  · intro same
    rw [same, hpath] at hjoined
    rw [List.append_cancel_left hjoined]
    exact head?_trim
  · intro first
    have last := getLast?_of_relativize? normal' found
    refine eq_of_path (by rw [scheme_join, hscheme]) (by rw [authority_join, hauthority]) ?_
    rw [hjoined, hpath, trim_eq_self first last]

/-- Where no two slashes stand side by side, no slash is left before what relativizing answers. -/
theorem head?_of_relativize? (normal : location.Normal) (single : Single child.path.toList)
    (found : location.relativize? child = some rest) : rest.toList.head? ≠ some '/' := by
  obtain ⟨-, -, hpath, -⟩ := relativize?_eq_some.1 found
  obtain ⟨front, hlead, -⟩ := normal.lead_eq_append
  intro first
  obtain ⟨more, hrest⟩ := List.head?_eq_some_iff.1 first
  exact single ⟨front, more, by rw [hpath, hrest, hlead]; simp⟩

/-- **There and back.**  For two locations that were read, what relativizing answers, joined again,
leads to the same scheme, authority and names; and to the same location exactly if no slash stands
before it, so wherever no two slashes stand side by side in the path.  It leads back to every path
that a recursive listing of the location shows, the location itself apart. -/
theorem join_relativized (read : Location.parse raw = .ok location) :
    (∀ text child rest, Location.parse text = .ok child →
      location.relativize? child = some rest →
      (location.join rest = child ↔ PathText.isAbsolute rest = false) ∧
      (Single child.path.toList → location.join rest = child) ∧
      (location.join rest).scheme = child.scheme ∧
      (location.join rest).authority = child.authority ∧
      PathText.names (location.join rest).path = PathText.names child.path) ∧
    ∀ root disk after files,
      ((Disk.storage root).listFiles location).outcome disk = (.ok files, after) →
      ∀ file ∈ files, file.path = location ∨
        ∃ rest, location.relativize? file.path = some rest ∧ location.join rest = file.path := by
  have normal := normal_of_parse? (parse_ok_iff.1 read)
  constructor
  · intro text child rest read' found
    have normal' := normal_of_parse? (parse_ok_iff.1 read')
    obtain ⟨hscheme, hauthority, -, -⟩ := relativize?_eq_some.1 found
    have back := join_relativize?_iff normal normal' found
    refine ⟨?_, fun single => back.2 (head?_of_relativize? normal single found), ?_, ?_, ?_⟩
    · rw [back, ne_eq, ← PathText.isAbsolute_iff, Bool.not_eq_true]
    · rw [scheme_join, hscheme]
    · rw [authority_join, hauthority]
    · rw [names_join normal, names_of_relativize? found]
  · intro root disk after files listed file hfile
    obtain ⟨answered, -⟩ := Prod.mk.inj listed
    obtain ⟨inner, hpath⟩ := Disk.path_of_listFiles answered file hfile
    rw [hpath]
    by_cases idle : trim '/' inner.toList = []
    · exact .inl (join_eq_self idle)
    · refine .inr ⟨_, relativize?_join normal idle, join_congr ?_⟩
      rw [toList_trimSlashes, trim_trim]

/-- A file in the directory `d` is found again, and so is everything that the directory shows. -/
theorem join_relativized_sample :
    Location.parse "d" = .ok (Sample.here "d") ∧
    Location.parse "d/b/z" = .ok (Sample.here "d/b/z") ∧
    (Sample.here "d").relativize? (Sample.here "d/b/z") = some "b/z" ∧
    (Sample.here "d").join "b/z" = Sample.here "d/b/z" ∧
    ∃ files, ((Disk.storage "r").listFiles (Sample.here "d")).outcome Sample.burrow =
        (.ok files, Sample.burrow) ∧
      files.map FileStatus.size = [1, 1, 1, 1] ∧
      ∀ file ∈ files, file.path = Sample.here "d" ∨ ∃ rest,
        (Sample.here "d").relativize? file.path = some rest ∧
          (Sample.here "d").join rest = file.path := by
  have read : Location.parse "d" = .ok (Sample.here "d") := by decide
  have read' : Location.parse "d/b/z" = .ok (Sample.here "d/b/z") := by decide
  have found : (Sample.here "d").relativize? (Sample.here "d/b/z") = some "b/z" := by decide
  have concrete : (((Disk.storage "r").listFiles (Sample.here "d")).outcome
      Sample.burrow).1.toOption.map (·.map FileStatus.size) = some [1, 1, 1, 1] := by
    decide
  obtain ⟨files, answered, sizes⟩ := Option.map_eq_some_iff.1 concrete
  have listed := Run.outcome_eq_of_toOption answered
  obtain ⟨back, shown⟩ := join_relativized read
  exact ⟨read, read', found, (back _ _ _ read' found).1.2 (by decide), files, listed, sizes,
    shown "r" _ _ _ listed⟩

/-- Of the two slashes in `a//b`, relativizing against `a` takes off one and joining the other.  No
other text leads there either. -/
theorem relativized_keeps_slash :
    (¬ ∀ (raw text rest : String) (location child : Location),
      Location.parse raw = .ok location → Location.parse text = .ok child →
      location.relativize? child = some rest → location.join rest = child) ∧
    (⟨none, "", "a"⟩ : Location).relativize? ⟨none, "", "a//b"⟩ = some "/b" ∧
    Location.join ⟨none, "", "a"⟩ "/b" = ⟨none, "", "a/b"⟩ ∧
    ∀ relative, Location.join ⟨none, "", "a"⟩ relative ≠ ⟨none, "", "a//b"⟩ := by
  have read : Location.parse "a" = .ok ⟨none, "", "a"⟩ := by decide
  have found : (⟨none, "", "a"⟩ : Location).relativize? ⟨none, "", "a//b"⟩ = some "/b" := by
    decide
  have joined : Location.join ⟨none, "", "a"⟩ "/b" = ⟨none, "", "a/b"⟩ := by decide
  refine ⟨fun claim => ?_, found, joined, fun relative same => ?_⟩
  · have same := claim "a" "a//b" "/b" _ _ read (by decide) found
    rw [joined] at same
    exact absurd same (by decide)
  · by_cases idle : trim '/' relative.toList = []
    · rw [join_eq_self idle] at same
      exact absurd same (by decide)
    · have first : (trim '/' relative.toList).head? ≠ some '/' := head?_trim
      have hpath := path_join (normal_of_parse? (parse_ok_iff.1 read)) idle
      rw [same] at hpath
      have hrest : "a/".toList ++ ['/', 'b'] = "a/".toList ++ trim '/' relative.toList := hpath
      exact first (by rw [← List.append_cancel_left hrest]; rfl)

end ArtifactStaging.Location
