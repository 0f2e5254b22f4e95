/-
# ArtifactStaging.Proofs.Location.Segments -- the segments of a joined location

The segments of a location are the pieces of its path between the slashes.  A slash at the end
starts none, so the root has one, the empty one before its slash; empty segments inside a path
count.

Joining appends segments (`segments_join`): behind those of the location come those of what is
joined, from its first name to its last.  What is dropped is the empty segments at its ends.
So of two texts that differ in empty segments, only those that differ at the ends are joined
alike (`join_inj`), and just the names of a text are appended exactly if no two slashes stand
side by side between them (`PathText.segments_eq_names_iff`).  With two of them, an empty
segment stays (`join_keeps_empty`).
-/
import ArtifactStaging.Proofs.Location.NormalForm

set_option autoImplicit false

namespace ArtifactStaging

open Text

/-! ## Empty pieces -/

namespace Text

variable {text : List Char}

/-- Behind the first piece of a text, none is empty unless two slashes stand side by side.  By
induction on the text: the first piece of the rest is a later one of the text if a slash stands
before it, and then it is not empty, as no other slash follows. -/
theorem nil_notMem_tail_pieces (last : text.getLast? ≠ some '/') (single : Single text) :
    [] ∉ (pieces '/' text).tail := by
  induction text with
  | nil => simp [pieces]
  | cons d rest ih =>
      have within := ih (fun hlast => last (by rw [List.getLast?_cons, hlast]; rfl))
        fun twice => single (twice.trans (List.suffix_cons d rest).isInfix)
      by_cases hd : d = '/'
      · subst hd
        cases rest with
        | nil => simp at last
        | cons e more =>
            have other : e ≠ '/' := by
              rintro rfl
              exact single ⟨[], more, rfl⟩
            obtain ⟨first, others, -, hpieces⟩ := pieces_cons other more
            rw [hpieces] at within
            rw [pieces, if_pos rfl, hpieces]
            simpa using within
      · obtain ⟨first, others, hrest, hpieces⟩ := pieces_cons hd rest
        rw [hrest] at within
        rwa [hpieces]

/-- In a trimmed text, a piece is empty exactly if two slashes stand side by side. -/
theorem nil_notMem_pieces_iff (inhabited : text ≠ []) (first : text.head? ≠ some '/')
    (last : text.getLast? ≠ some '/') : [] ∉ pieces '/' text ↔ Single text := by
  constructor
  · rintro whole ⟨front, back, rfl⟩
    apply whole
    rw [List.append_assoc, List.cons_append, pieces_append, List.cons_append, pieces, if_pos rfl]
    simp
  · intro single
    obtain ⟨d, rest, rfl⟩ := List.exists_cons_of_ne_nil inhabited
    obtain ⟨piece, others, -, hpieces⟩ := pieces_cons (by simpa using first) rest
    have within := nil_notMem_tail_pieces last single
    rw [hpieces] at within ⊢
    simpa using within

end Text

/-! ## Segments -/

namespace PathText

variable {path other : String}

/-- The pieces of a path from its first name to its last; those between them may be empty. -/
def segments (path : String) : List String :=
  if trimSlashes path = "" then [] else split '/' (trimSlashes path)

theorem segments_of_trimmed (h : trim '/' path.toList = []) : segments path = [] := by
  rw [segments, if_pos (by rw [trimSlashes, h])]

theorem segments_eq (h : trim '/' path.toList ≠ []) :
    segments path = (pieces '/' (trim '/' path.toList)).map String.ofList := by
  rw [segments, if_neg (by rwa [trimSlashes, String.ofList_eq_empty_iff]), split,
    toList_trimSlashes]

/-- The names of a path are its segments that are not empty. -/
theorem names_eq_filter_segments (path : String) :
    names path = (segments path).filter fun segment => !segment.isEmpty := by
  rw [← names_trimSlashes]
  unfold segments
  split
  · next h => rw [h, names_empty, List.filter_nil]
  · rfl

/-- No segment is empty exactly if no two slashes stand side by side between the ends. -/
theorem segments_eq_names_iff : segments path = names path ↔ Single (trim '/' path.toList) := by
  by_cases h : trim '/' path.toList = []
  · rw [names_eq_filter_segments, segments_of_trimmed h, h]
    exact iff_of_true rfl fun twice => by simpa using twice.length_le
  · rw [← nil_notMem_pieces_iff h head?_trim getLast?_trim, names_eq_filter_segments, eq_comm,
      List.filter_eq_self, segments_eq h]
    constructor
    · intro named nil
      cases named "" (List.mem_map.2 ⟨[], nil, rfl⟩)
    · intro nil segment hsegment
      obtain ⟨piece, hpiece, rfl⟩ := List.mem_map.1 hsegment
      have inhabited : piece ≠ [] := fun hempty => nil (hempty ▸ hpiece)
      simpa using inhabited

/-- The segments of a path tell it, slashes at its ends apart. -/
theorem segments_inj : segments path = segments other ↔ trimSlashes path = trimSlashes other := by
  constructor
  · intro h
    by_cases hpath : trim '/' path.toList = [] <;> by_cases hother : trim '/' other.toList = []
    · rw [trimSlashes, hpath, trimSlashes, hother]
    · rw [segments_of_trimmed hpath, segments_eq hother] at h
      exact absurd (List.map_eq_nil_iff.1 h.symm) (pieces_ne_nil _ _)
    · rw [segments_of_trimmed hother, segments_eq hpath] at h
      exact absurd (List.map_eq_nil_iff.1 h) (pieces_ne_nil _ _)
    · rw [segments_eq hpath, segments_eq hother] at h
      have hpieces := List.map_injective_iff.2 (fun _ _ => String.ofList_injective) h
      rw [trimSlashes, pieces_inj.1 hpieces, trimSlashes]
  · intro h
    rw [segments, segments, h]

end PathText

namespace Location

variable {location : Location} {raw relative : String}

/-- The pieces of a location's path; a slash at the end starts none. -/
def segments (location : Location) : List String :=
  split '/' (String.ofList (dropTrailing '/' location.path.toList))

/-- **Joining appends the segments of what is joined**, from its first name to its last. -/
theorem segments_join (normal : location.Normal) (relative : String) :
    (location.join relative).segments = location.segments ++ PathText.segments relative := by
  by_cases h : trim '/' relative.toList = []
  · rw [join_eq_self h, PathText.segments_of_trimmed h, List.append_nil]
  · obtain ⟨front, hlead, hlast, hfront⟩ := normal.lead_eq_append
    have hbase : dropTrailing '/' location.path.toList = front := by
      rcases hfront with ⟨rfl, hroot⟩ | rfl
      · rw [hroot]
        decide
      · exact dropTrailing_eq_self hlast
    have hpath := path_join normal h
    have whole : (location.join relative).path.toList.getLast? ≠ some '/' := by
      rw [hpath, List.getLast?_append_of_ne_nil _ h]
      exact getLast?_trim
    rw [hlead, List.append_assoc, List.singleton_append] at hpath
    rw [segments, segments, dropTrailing_eq_self whole, hbase, hpath, PathText.segments_eq h]
    simp [split, pieces_append]

/-- **What joining does to the segments.**  To those of a location that was read, joining appends
the segments of what is joined, from its first name to its last; so all the names follow, and
nothing but the names exactly if no two slashes stand side by side between the first and the last
one.  Two texts are joined alike exactly if they are the same but for slashes at their ends, so any
two are that have the same names and no two slashes side by side between them. -/
theorem segments_of_join (read : Location.parse raw = .ok location) :
    (∀ relative,
      (location.join relative).segments = location.segments ++ PathText.segments relative ∧
      PathText.names (location.join relative).path =
        PathText.names location.path ++ PathText.names relative ∧
      ((location.join relative).segments = location.segments ++ PathText.names relative ↔
        Single (trim '/' relative.toList))) ∧
    ∀ first second,
      (location.join first = location.join second ↔ trimSlashes first = trimSlashes second) ∧
      (PathText.names first = PathText.names second → Single (trim '/' first.toList) →
        Single (trim '/' second.toList) → location.join first = location.join second) := by
  have normal := normal_of_parse? (parse_ok_iff.1 read)
  refine ⟨fun relative => ⟨segments_join normal relative, names_join normal relative, ?_⟩, ?_⟩
  · rw [segments_join normal, List.append_cancel_left_eq, PathText.segments_eq_names_iff]
  · intro first second
    have alike : location.join first = location.join second ↔
        trimSlashes first = trimSlashes second := by
      rw [join_inj, ← String.toList_inj, toList_trimSlashes, toList_trimSlashes]
    refine ⟨alike, fun named single single' => ?_⟩
    rw [alike, ← PathText.segments_inj, PathText.segments_eq_names_iff.2 single, named,
      PathText.segments_eq_names_iff.2 single']

/-- To the root of a file system, slashes at the ends and between names are joined. -/
theorem segments_of_join_root :
    Location.parse "hh://n" = .ok ⟨some "hh", "n", "/"⟩ ∧
    (Location.join ⟨some "hh", "n", "/"⟩ "//x//y/").segments = [""] ++ ["x", "", "y"] ∧
    Single (trim '/' "/x/y//".toList) ∧
    (Location.join ⟨some "hh", "n", "/"⟩ "/x/y//").segments = [""] ++ ["x", "y"] ∧
    Location.join ⟨some "hh", "n", "/"⟩ "/x/y//" = Location.join ⟨some "hh", "n", "/"⟩ "x/y" := by
  have read : Location.parse "hh://n" = .ok ⟨some "hh", "n", "/"⟩ := by decide
  have single : Single (trim '/' "/x/y//".toList) := fun twice => absurd twice (by decide)
  have single' : Single (trim '/' "x/y".toList) := fun twice => absurd twice (by decide)
  obtain ⟨appended, alike⟩ := segments_of_join read
  exact ⟨read, (appended "//x//y/").1.trans (by decide), single,
    ((appended "/x/y//").2.2.2 single).trans (by decide),
    (alike "/x/y//" "x/y").2 (by decide) single single'⟩

/-- An empty segment between two names stays, so texts with the same names are not joined alike. -/
theorem join_keeps_empty :
    (¬ ∀ (raw relative : String) (location : Location), Location.parse raw = .ok location →
      (location.join relative).segments = location.segments ++ PathText.names relative) ∧
    (¬ ∀ (raw first second : String) (location : Location), Location.parse raw = .ok location →
      PathText.names first = PathText.names second →
      location.join first = location.join second) ∧
    (Location.join ⟨none, "", "p"⟩ "a//b").segments = ["p", "a", "", "b"] ∧
    PathText.names "a//b" = ["a", "b"] := by
  have read : Location.parse "p" = .ok ⟨none, "", "p"⟩ := by decide
  have kept : (Location.join ⟨none, "", "p"⟩ "a//b").segments = ["p", "a", "", "b"] := by decide
  refine ⟨fun claim => ?_, fun claim => ?_, kept, by decide⟩
  · have appended := claim "p" "a//b" _ read
    rw [kept] at appended
    exact absurd appended (by decide)
  · have same := claim "p" "a//b" "a/b" _ read (by decide)
    exact absurd same (by decide)

end Location

end ArtifactStaging
