/-
# ArtifactStaging.Proofs.Storage.Backing -- which remote locations share a file

A remote location is backed by a path beneath the root of the storage: the scheme, the
directory for the authority (`Disk.authorityName`) and then the path.  None of these is
absolute, so the names of the backing path are those of the root and then of the three
(`names_resolve`).  A scheme is one name and no dot, and the directory for an authority is one
name; component by component a path has its names but for the single dots.  So the backing path
tells the scheme, and behind it, single dots left out, the directory for the authority with the
names of the path (`sameComponents_resolve_iff`).

That is not the authority itself: a dot is left out, and the placeholder for the empty one may
be an authority of its own (`resolve_shares`).
-/
import ArtifactStaging.Proofs.Storage.Resolving

set_option autoImplicit false

namespace ArtifactStaging

/-! ## Components -/

namespace PathText

variable {path base first : String} {rest : List String}

/-- Two paths are one component by component; that a path starts at the root is a component. -/
def SameComponents (path other : String) : Prop :=
  isAbsolute path = isAbsolute other ∧ components path = components other

instance (path other : String) : Decidable (SameComponents path other) :=
  inferInstanceAs (Decidable (_ ∧ _))

/-- Behind a name that is no dot, the components go on with the names that are no dots. -/
theorem components_of_names (absolute : isAbsolute path = isAbsolute base)
    (hnames : names path = names base ++ first :: rest) (proper : first ≠ ".") :
    components path = components base ++ first :: rest.filter (· != ".") := by
  unfold components
  cases hbase : names base with
  | nil =>
      rw [hbase, List.nil_append] at hnames
      simp [hnames, proper]
  | cons head others =>
      rw [hbase, List.cons_append] at hnames
      rw [hnames, absolute]
      dsimp only
      split <;> simp [proper]

theorem isAbsolute_of_notMem (whole : '/' ∉ path.toList) : isAbsolute path = false := by
  rw [← Bool.not_eq_true, isAbsolute_iff]
  exact fun hhead => whole (List.mem_of_head? hhead)

end PathText

/-! ## Backing paths -/

namespace Location

variable {location : Location}

/-- A remote location that was read has a scheme that is one name and no dot, and an authority
without a slash. -/
theorem Settled.remote (settled : location.Settled) (remote : location.isRemote = true) :
    ∃ scheme, location.scheme = some scheme ∧ scheme ≠ "" ∧ '/' ∉ scheme.toList ∧ scheme ≠ "." ∧
      '/' ∉ location.authority.toList := by
  have named {scheme : String} (h : isScheme scheme.toList = true) :
      scheme ≠ "" ∧ '/' ∉ scheme.toList ∧ scheme ≠ "." := by
    refine ⟨?_, notMem_slash h, ?_⟩ <;> rintro rfl <;> exact absurd h (by decide)
  cases settled with
  | plain normal h => cases remote
  | bare h lower long normal relative =>
      obtain ⟨inhabited, whole, proper⟩ := named h
      exact ⟨_, rfl, inhabited, whole, proper, by simp⟩
  | full h lower authority normal absolute =>
      obtain ⟨inhabited, whole, proper⟩ := named h
      exact ⟨_, rfl, inhabited, whole, proper, authority⟩

end Location

namespace Disk

open PathText

variable {root raw raw' scheme : String} {location first second : Location}

/-- The name of the directory for an authority. -/
def authorityName (location : Location) : String :=
  if location.authority.isEmpty then emptyAuthority else location.authority

theorem resolve_remote (root : String) (remote : location.isRemote = true) :
    resolve root location = [location.scheme.getD "", authorityName location,
      String.ofList (location.path.toList.dropWhile (· == '/'))].foldl append root := by
  simp only [resolve, Location.localPath?_eq_none.2 remote, authorityName]

theorem authorityName_whole (whole : '/' ∉ location.authority.toList) :
    authorityName location ≠ "" ∧ '/' ∉ (authorityName location).toList := by
  unfold authorityName
  split
  · decide
  · next inhabited => exact ⟨by simpa using inhabited, whole⟩

/-- **The names of the path behind a remote location** are those of the root of the storage, the
scheme, the directory for the authority, and the names of the location's own path. -/
theorem names_resolve (root : String) (settled : location.Settled)
    (remote : location.isRemote = true) :
    ∃ scheme, location.scheme = some scheme ∧ scheme ≠ "." ∧
      isAbsolute (resolve root location) = isAbsolute root ∧
      names (resolve root location) =
        names root ++ scheme :: authorityName location :: names location.path := by
  obtain ⟨scheme, hscheme, inhabited, whole, proper, hauthority⟩ := settled.remote remote
  obtain ⟨inhabited', whole'⟩ := authorityName_whole hauthority
  have relative := isAbsolute_of_notMem whole
  have relative' := isAbsolute_of_notMem whole'
  have inner := isAbsolute_dropWhile location.path.toList
  refine ⟨scheme, hscheme, proper, ?_⟩
  rw [resolve_remote root remote, hscheme, Option.getD_some, List.foldl_cons, List.foldl_cons,
    List.foldl_cons, List.foldl_nil]
  constructor
  · rw [isAbsolute_append_relative inner, isAbsolute_append_relative relative',
      isAbsolute_append_relative relative]
  · rw [names_append_relative inner, names_append_relative relative',
      names_append_relative relative, names_dropWhile, String.ofList_toList,
      names_eq_singleton inhabited whole, names_eq_singleton inhabited' whole']
    simp

/-- **Which remote locations share a file.**  Whatever the root of the storage, two remote locations
that were read are backed by the same path, component by component, exactly if they have the same
scheme and the same names behind it, single dots left out: the directory for the authority and the
names of the path. -/
theorem sameComponents_resolve_iff (root : String) (read : Location.parse raw = .ok first)
    (read' : Location.parse raw' = .ok second) (remote : first.isRemote = true)
    (remote' : second.isRemote = true) :
    SameComponents (resolve root first) (resolve root second) ↔
      first.scheme = second.scheme ∧
        (authorityName first :: names first.path).filter (· != ".") =
          (authorityName second :: names second.path).filter (· != ".") := by
  obtain ⟨scheme, hscheme, proper, absolute, hnames⟩ :=
    names_resolve root (Location.settled_of_parse read) remote
  obtain ⟨scheme', hscheme', proper', absolute', hnames'⟩ :=
    names_resolve root (Location.settled_of_parse read') remote'
  rw [SameComponents, absolute, absolute', components_of_names absolute hnames proper,
    components_of_names absolute' hnames' proper', List.append_cancel_left_eq, List.cons.injEq,
    hscheme, hscheme', Option.some.injEq]
  exact and_iff_right rfl

/-- One file is behind three spellings of a path, and not behind the path with an authority. -/
theorem sameComponents_resolve_iff_sample :
    Location.parse "hh:x/./y" = .ok ⟨some "hh", "", "x/./y"⟩ ∧
    Location.parse "HH:///x//y/" = .ok ⟨some "hh", "", "/x//y"⟩ ∧
    Location.parse "hh://n/x/y" = .ok ⟨some "hh", "n", "/x/y"⟩ ∧
    SameComponents (resolve "remote" ⟨some "hh", "", "x/./y"⟩)
      (resolve "remote" ⟨some "hh", "", "/x//y"⟩) ∧
    ¬ SameComponents (resolve "remote" ⟨some "hh", "", "x/./y"⟩)
      (resolve "remote" ⟨some "hh", "n", "/x/y"⟩) := by
  have read : Location.parse "hh:x/./y" = .ok ⟨some "hh", "", "x/./y"⟩ := by decide
  have same : Location.parse "HH:///x//y/" = .ok ⟨some "hh", "", "/x//y"⟩ := by decide
  have other : Location.parse "hh://n/x/y" = .ok ⟨some "hh", "n", "/x/y"⟩ := by decide
  refine ⟨read, same, other, ?_, fun shared => ?_⟩
  · exact (sameComponents_resolve_iff "remote" read same (by decide) (by decide)).2 (by decide)
  · have alike := (sameComponents_resolve_iff "remote" read other (by decide) (by decide)).1 shared
    exact absurd alike.2 (by decide)

/-- A single dot among the names of a path is no component, and neither is an authority that is a
dot; and an authority that is the placeholder has the directory of the empty one. -/
theorem resolve_shares :
    (¬ ∀ (root raw raw' : String) (first second : Location), Location.parse raw = .ok first →
      Location.parse raw' = .ok second → first.isRemote = true → second.isRemote = true →
      ¬ (first.scheme = second.scheme ∧ first.authority = second.authority ∧
        names first.path = names second.path) →
      ¬ SameComponents (resolve root first) (resolve root second)) ∧
    SameComponents (resolve "remote" ⟨some "hh", "n", "/./x"⟩)
      (resolve "remote" ⟨some "hh", "n", "/x"⟩) ∧
    SameComponents (resolve "remote" ⟨some "hh", ".", "/x"⟩)
      (resolve "remote" ⟨some "hh", "x", "/"⟩) ∧
    SameComponents (resolve "remote" ⟨some "hh", "_", "/x"⟩)
      (resolve "remote" ⟨some "hh", "", "/x"⟩) := by
  have read : Location.parse "hh://n/./x" = .ok ⟨some "hh", "n", "/./x"⟩ := by decide
  have read' : Location.parse "hh://n/x" = .ok ⟨some "hh", "n", "/x"⟩ := by decide
  have shared : SameComponents (resolve "remote" ⟨some "hh", "n", "/./x"⟩)
      (resolve "remote" ⟨some "hh", "n", "/x"⟩) := by decide
  refine ⟨fun claim => ?_, shared, by decide +kernel, by decide +kernel⟩
  exact claim "remote" _ _ _ _ read read' (by decide) (by decide) (by decide) shared

end Disk

end ArtifactStaging
