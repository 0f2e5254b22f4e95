/-
# ArtifactStaging.Proofs.Storage.Resolving -- the path behind a location

What names are joined to a location lies beneath the path behind the location, in every form
that a location has (`Disk.resolve_join`): joining and resolving put one slash between the
same texts.

A location is text and the names that lead to a file need not be.  What is shown of the names
is joined to the location then, and the path behind that is the path of the names themselves
exactly if these are text (`Disk.resolve_join_eq_iff`).
-/
import ArtifactStaging.Proofs.FileSystem.FilesBeneath
import ArtifactStaging.Proofs.Staging.Destinations
import ArtifactStaging.Storage.Disk

set_option autoImplicit false

namespace ArtifactStaging

open FileSystem

/-! ## Paths put together -/

namespace PathText

variable {base inner relative : String}

theorem append_relative (base : String) (h : isAbsolute relative = false) :
    append base relative =
      if base.isEmpty || endsInSlash base then base ++ relative else base ++ "/" ++ relative := by
  rw [append, if_neg (by simp [h])]

theorem isAbsolute_append_relative (h : isAbsolute relative = false) :
    isAbsolute (append base relative) = isAbsolute base := by
  rw [← RawText.isAbsolute_of, ← RawText.append_of,
    RawText.isAbsolute_append_relative (by rwa [RawText.isAbsolute_of]), RawText.isAbsolute_of]

/-- Without the slashes at its front, a path does not start at the root. -/
theorem isAbsolute_dropWhile (text : List Char) :
    isAbsolute (String.ofList (text.dropWhile (· == '/'))) = false := by
  rw [← Bool.not_eq_true, isAbsolute_iff, String.toList_ofList]
  intro first
  have hfalse := List.head?_dropWhile_not (· == '/') text
  simp [first] at hfalse

/-- The names of a path with another behind it are those of the one and then of the other. -/
theorem names_append_relative (h : isAbsolute relative = false) :
    names (append base relative) = names base ++ names relative := by
  have hnames : ((RawText.of base).append (RawText.of relative)).names = _ :=
    RawText.names_append_relative (by rwa [RawText.isAbsolute_of])
  simp only [RawText.append_of, RawText.names_of, ← List.map_append] at hnames
  exact List.map_injective_iff.2 RawText.of_injective hnames

/-- Two paths behind one another may be put together first. -/
theorem append_assoc (hinner : isAbsolute inner = false) (h : isAbsolute relative = false) :
    append (append base inner) relative = append base (append inner relative) := by
  by_cases hempty : inner = ""
  · have nothing : append "" relative = relative := by simp [append_relative "" h]
    rw [hempty, nothing, append_relative base (by decide), String.append_empty,
      append_relative base h, append_relative _ h]
    by_cases hbase : (base.isEmpty || endsInSlash base) = true
    · simp only [if_pos hbase]
    · have slash : endsInSlash (base ++ "/") = true := by
        rw [endsInSlash_iff]
        simp
      rw [if_neg hbase, if_neg hbase, String.append_empty, slash, Bool.or_true, if_pos rfl]
  · have further : (append base inner).isEmpty = false := by
      rw [append_relative base hinner, String.isEmpty_eq_false_iff]
      split <;> simp [hempty]
    have last : endsInSlash (append base inner) = endsInSlash inner := by
      rw [append_relative base hinner, Bool.eq_iff_iff, endsInSlash_iff, endsInSlash_iff]
      split <;> rw [String.toList_append, List.getLast?_append_of_ne_nil _ (by simpa using hempty)]
    have joined : isAbsolute (append inner relative) = false :=
      (isAbsolute_append_relative h).trans hinner
    rw [append_relative (append base inner) h, further, last, Bool.false_or,
      append_relative base joined, append_relative base hinner, append_relative inner h,
      String.isEmpty_eq_false_iff.2 hempty, Bool.false_or]
    split <;> split <;> simp [String.append_assoc]

end PathText

/-! ## Locations of files -/

namespace Location

open Text

variable {location : Location} {relative : String}

/-- Without the slashes at its front, what is joined stands behind what was there. -/
theorem dropWhile_path_join (location : Location)
    (trimmed : trim '/' relative.toList = relative.toList) (inhabited : relative ≠ "") :
    String.ofList ((location.join relative).path.toList.dropWhile (· == '/')) =
      PathText.append (String.ofList (location.path.toList.dropWhile (· == '/'))) relative := by
  have more : relative.toList ≠ [] := by simpa using inhabited
  have first : relative.toList.head? ≠ some '/' := trimmed ▸ head?_trim
  have behind : PathText.isAbsolute relative = false := by
    rwa [← Bool.not_eq_true, PathText.isAbsolute_iff]
  have alone : relative.toList.dropWhile (· == '/') = relative.toList := by
    cases htext : relative.toList with
    | nil => rfl
    | cons c rest =>
        rw [htext] at first
        exact List.dropWhile_cons_of_neg (by simpa using first)
  have hpath := toList_join location (trimmed.symm ▸ more : trim '/' relative.toList ≠ [])
  rw [trimmed] at hpath
  rw [hpath, PathText.append_relative _ behind, ← String.toList_inj, String.toList_ofList]
  by_cases hdrop : location.path.toList.dropWhile (· == '/') = []
  · -- The path is nothing but slashes, and so is all that stands before what is joined.
    have slashes : location.bound.dropWhile (· == '/') = [] := by
      unfold bound
      split <;> simp [List.dropWhile_append, hdrop]
    simp [List.dropWhile_append, slashes, hdrop, alone]
  · have last : (location.path.toList.dropWhile (· == '/')).getLast? =
        location.path.toList.getLast? := by
      conv_rhs =>
        rw [← List.takeWhile_append_dropWhile (p := (· == '/')) (l := location.path.toList)]
      rw [List.getLast?_append_of_ne_nil _ hdrop]
    have inner : (location.path.toList.dropWhile (· == '/')).isEmpty = false :=
      List.isEmpty_eq_false_iff.2 hdrop
    have ends : PathText.endsInSlash (String.ofList (location.path.toList.dropWhile (· == '/'))) =
        decide (location.path.toList.getLast? = some '/') := by
      rw [Bool.eq_iff_iff, PathText.endsInSlash_iff, String.toList_ofList, last, decide_eq_true_iff]
    rw [bound, String.isEmpty_eq_false_iff.2 (by simpa using hdrop), ends, Bool.false_or]
    by_cases slash : location.path.toList.getLast? = some '/'
    · simp [slash, List.dropWhile_append, inner]
    · simp [slash, List.dropWhile_append, inner]

end Location

namespace Disk

open PathText Text

variable {root : String} {location : Location} {names : List String}

/-- **What names are joined to a location lies at the path beneath its path**, in every form that
a location has. -/
theorem resolve_join (written : resolve root location ≠ "") (inhabited : names ≠ [])
    (proper : ∀ name ∈ names, name ≠ "" ∧ '/' ∉ name.toList) :
    resolve root (location.join (Text.join "/" names)) =
      pathBeneath (resolve root location) names := by
  obtain ⟨trimmed, more⟩ := trim_join inhabited proper
  have behind := isAbsolute_join inhabited proper
  by_cases remote : location.isRemote = true
  · have remote' : (location.join (Text.join "/" names)).isRemote = true := by simpa using remote
    -- The path is put behind the authority without the slashes at its front.
    simp only [resolve, Location.localPath?_eq_none.2 remote, Location.localPath?_eq_none.2 remote',
      Location.scheme_join, Location.authority_join, List.foldl_cons, List.foldl_nil,
      Location.dropWhile_path_join location trimmed (by simpa using more)]
    exact (append_assoc (isAbsolute_dropWhile _) behind).symm
  · have here : location.isRemote = false := by simpa using remote
    have there : (location.join (Text.join "/" names)).isRemote = false := by simpa using here
    simp only [resolve, Location.localPath?_eq_some.2 ⟨here, rfl⟩,
      Location.localPath?_eq_some.2 ⟨there, rfl⟩] at written ⊢
    have hpath := Location.toList_join location
      (trimmed.symm ▸ more : trim '/' (Text.join "/" names).toList ≠ [])
    rw [← String.toList_inj, hpath, trimmed, pathBeneath, append_relative _ behind, Location.bound,
      String.isEmpty_eq_false_iff.2 written, Bool.false_or]
    simp only [endsInSlash_iff]
    split <;> simp

/-- What is shown of names, joined to a location, lies at the path of the names exactly if they are
text. -/
theorem resolve_join_eq_iff {names : Place} (written : resolve root location ≠ "")
    (inhabited : names ≠ []) (proper : ∀ name ∈ names, name.Proper) :
    RawText.of (resolve root (location.join (Text.join "/" names.shown))) =
        RawText.down (resolve root location) names ↔
      ∀ name ∈ names, name.IsText := by
  have shown : names.shown ≠ [] := by simpa [Place.shown] using inhabited
  have proper' : ∀ name ∈ names.shown, name ≠ "" ∧ '/' ∉ name.toList := by
    intro text htext
    obtain ⟨name, hname, rfl⟩ := List.mem_map.1 htext
    exact (proper name hname).lossy
  rw [resolve_join written shown proper', pathBeneath, Place.shown, ← RawText.lossy_down]
  exact RawText.isText_down proper _

end Disk

end ArtifactStaging
