/-
# ArtifactStaging.Proofs.Staging.Walking -- what a walk through a directory comes across

The entries of a tree stand in the order of their places, name by name.  So the
files that a walk comes across, which are those that ship (`FileSystem.shipping`),
come in depth-first order, and none comes twice: of two of them neither lies
beneath the other, so their names part somewhere (`Precedes`), and there they are
in the order of their bytes.

`ships_iff` says which files these are without a word about the walk: those beneath the
directory, and the special files if these count; of the links only those that the system
follows from the path that was walked.
-/
import ArtifactStaging.Proofs.Staging.Planning
import Mathlib.Data.List.Induction

set_option autoImplicit false

namespace ArtifactStaging

/-! ## The order of places -/

/-- Where two places part, the first goes on with the name whose bytes come first. -/
def Place.Precedes (first second : Place) : Prop :=
  ∃ (common : Place) (name other : RawText), name.bytes < other.bytes ∧
    common ++ [name] <+: first ∧ common ++ [other] <+: second

variable {first second : Place}

/-- Of two places beneath one, that comes first whose names from there on do. -/
theorem Place.lt_of_append_lt {base : Place} (h : base ++ first < base ++ second) :
    first < second := by
  induction base with
  | nil => exact h
  | cons name base ih =>
      rcases List.cons_lt_cons_iff.1 h with less | ⟨-, less⟩
      · exact absurd less (KeyOrder.irrefl name)
      · exact ih less

/-- A place precedes those that come after it in the order of names and do not lie beneath it. -/
theorem Place.precedes_of_lt (before : first < second) (apart : ¬first <+: second) :
    first.Precedes second := by
  induction first generalizing second with
  | nil => exact absurd List.nil_prefix apart
  | cons name rest ih =>
      cases second with
      | nil => exact absurd before (List.not_lt_nil _)
      | cons other tail =>
          rcases List.cons_lt_cons_iff.1 before with less | ⟨rfl, less⟩
          · exact ⟨[], name, other, less, by simp, by simp⟩
          · obtain ⟨common, x, y, parts, inFirst, inSecond⟩ :=
              ih less fun h => apart (by simpa using h)
            exact ⟨name :: common, x, y, parts, by simpa using inFirst, by simpa using inSecond⟩

/-- No place precedes itself. -/
theorem Place.Precedes.ne (h : first.Precedes second) : first ≠ second := by
  rintro rfl
  obtain ⟨common, name, other, parts, ⟨more, hname⟩, ⟨more', hother⟩⟩ := h
  rw [← hother, List.append_assoc, List.append_assoc, List.append_cancel_left_eq,
    List.singleton_append, List.singleton_append, List.cons.injEq] at hname
  rw [hname.1] at parts
  exact List.lt_irrefl _ parts

/-! ## Entries beneath a place -/

namespace FileTree

variable {tree : FileTree} {place before : Place} {entry : Entry}

/-- Whatever is above an entry is a directory. -/
theorem isDirectory_above (h : tree.at? place = some entry) (above : before <+: place)
    (strict : before ≠ place) : tree.isDirectory before = true := by
  obtain ⟨more, rfl⟩ := above
  induction more using List.reverseRecOn generalizing entry with
  | nil => simp at strict
  | append_singleton more name ih =>
      have parent := isDirectory_dropLast_of_at? h
      rw [← List.append_assoc, List.dropLast_concat] at parent
      by_cases last : more = []
      · rwa [last, List.append_nil] at parent
      · obtain ⟨attributes, here⟩ := exists_of_isDirectory parent
        exact ih here (by simpa using last)

/-- The entries beneath a place come in the order of the names that lead to them. -/
theorem beneath_ascending (tree : FileTree) (base : Place) :
    (tree.beneath base).Pairwise fun a b => a.1 < b.1 := by
  rw [beneath, List.pairwise_filterMap]
  refine tree.entries.ascending.imp ?_
  rintro ⟨place, entry⟩ ⟨place', entry'⟩ less ⟨names, found⟩ here ⟨names', found'⟩ here'
  dsimp only at here here'
  split at here
  · cases here
  · next shown =>
    cases here
    split at here'
    · cases here'
    · next shown' =>
      cases here'
      obtain rfl := namesBeneath?_eq_some.1 shown
      obtain rfl := namesBeneath?_eq_some.1 shown'
      exact Place.lt_of_append_lt less
    · cases here'
  · cases here

end FileTree

/-! ## What ships from a directory -/

namespace FileSystem

variable {specials : Bool} {fs : FileSystem} {path : String} {place names : Place}
  {attributes : Attributes}

/-- Names lead from a directory to what counts: from directory to directory, never through a
link. -/
structure Ships (specials : Bool) (fs : FileSystem) (path : String) (place names : Place) :
    Prop where
  inhabited : names ≠ []
  way : ∀ before, before <+: names → before ≠ names →
    fs.tree.isDirectory (place ++ before) = true
  counted : ∃ entry, fs.tree.at? (place ++ names) = some entry ∧
    fs.counts specials (RawText.down path names) entry = true

/-- What ships from a directory is all that counts beneath it. -/
theorem mem_shipping_iff (led : fs.locate path = .ok (place, .directory attributes)) :
    names ∈ fs.shipping specials path ↔ fs.Ships specials path place names := by
  simp only [mem_shipping_of_locate led, FileTree.mem_beneath]
  constructor
  · rintro ⟨entry, ⟨inhabited, here⟩, leads⟩
    refine ⟨inhabited, fun before above strict => ?_, entry, here, leads⟩
    refine FileTree.isDirectory_above here ?_ (by simpa using strict)
    exact (List.prefix_append_right_inj place).2 above
  · rintro ⟨inhabited, -, entry, here, leads⟩
    exact ⟨entry, ⟨inhabited, here⟩, leads⟩

namespace Ships

theorem wellNamed (h : fs.Ships specials path place names) (tree : fs.tree.WellNamed) :
    ∀ name ∈ names, name.Proper ∧ name.Plain := by
  obtain ⟨entry, here, -⟩ := h.counted
  exact fun name hname => tree _ _ here name (List.mem_append_right place hname)

theorem proper (h : fs.Ships specials path place names) (tree : fs.tree.WellNamed) :
    ∀ name ∈ names, name.Proper :=
  fun name hname => (h.wellNamed tree name hname).1

/-- What ships does not lie beneath what ships. -/
theorem eq_of_above {other : Place} (h : fs.Ships specials path place names)
    (h' : fs.Ships specials path place other) (above : names <+: other) : names = other := by
  by_contra strict
  have directory := h'.way names above strict
  obtain ⟨entry, here, leads⟩ := h.counted
  rw [FileTree.isDirectory_eq, here] at directory
  cases entry with
  | directory => cases leads
  | file => cases directory
  | link => cases directory
  | special => cases directory

end Ships

/-- **What ships from a directory** are the files beneath it, of the links those that the system
follows, and, if they count, the special files. -/
theorem ships_iff (wellNamed : fs.tree.WellNamed)
    (led : fs.locate path = .ok (place, .directory attributes)) :
    fs.Ships specials path place names ↔
      fs.FileBeneath place names ∧ fs.Follows (RawText.down path names) (place ++ names) ∨
        specials = true ∧ fs.SpecialBeneath place names := by
  constructor
  · rintro ⟨inhabited, way, entry, here, counted⟩
    cases entry with
    | directory => cases counted
    | special kind attributes => exact .inr ⟨counted, inhabited, way, kind, attributes, here⟩
    | file number content attributes =>
        refine .inl ⟨⟨inhabited, way, _, .file here⟩, fun target time link => ?_⟩
        cases here.symm.trans link
    | link target time =>
        obtain ⟨file, found⟩ := (isFile_down_iff wellNamed led inhabited way here).1 counted
        exact .inl ⟨⟨inhabited, way, file⟩, fun _ _ _ => found⟩
  · rintro (⟨⟨inhabited, way, file, fileAt⟩, follows⟩ | ⟨counted, inhabited, way, _, _, here⟩)
    · refine ⟨inhabited, way, ?_⟩
      cases fileAt with
      | file here => exact ⟨_, here, rfl⟩
      | link here leads =>
          exact ⟨_, here, (isFile_down_iff wellNamed led inhabited way here).2
            ⟨⟨_, .link here leads⟩, follows _ _ here⟩⟩
    · exact ⟨inhabited, way, _, here, counted⟩

/-- Special files apart, these are the files beneath it, of the links those that the system
follows. -/
theorem mem_shipping_false_iff (wellNamed : fs.tree.WellNamed)
    (led : fs.locate path = .ok (place, .directory attributes)) :
    names ∈ fs.shipping false path ↔
      fs.FileBeneath place names ∧ fs.Follows (RawText.down path names) (place ++ names) := by
  rw [mem_shipping_iff led, ships_iff wellNamed led]
  simp

/-- What ships from a directory comes in depth-first order, siblings by the bytes of their
names. -/
theorem shipping_ascending (specials : Bool) (fs : FileSystem) (path : String) :
    (fs.shipping specials path).Pairwise Place.Precedes := by
  by_cases directory : fs.isDirectory path = true
  · obtain ⟨place, attributes, led⟩ := isDirectory_iff.1 directory
    have less : (fs.shipping specials path).Pairwise (· < ·) := by
      simp only [shipping, led, List.pairwise_map]
      exact (fs.tree.beneath_ascending place).filter _
    refine less.imp_of_mem fun {names other} here there before => ?_
    refine Place.precedes_of_lt before fun above => ?_
    have same := ((mem_shipping_iff led).1 here).eq_of_above ((mem_shipping_iff led).1 there) above
    exact KeyOrder.irrefl _ (same ▸ before)
  · rw [List.eq_nil_iff_forall_not_mem.2 fun names h => directory (isDirectory_of_mem_shipping h)]
    exact .nil

theorem shipping_nodup (specials : Bool) (fs : FileSystem) (path : String) :
    (fs.shipping specials path).Nodup :=
  (fs.shipping_ascending specials path).imp Place.Precedes.ne

end FileSystem

end ArtifactStaging
