/-
# ArtifactStaging.Proofs.Text.Slashes -- trimmed text, and the names of a path

Trimming takes separators off both ends and nothing else, so text that neither
starts nor ends with one is its own trimmed form (`trim_eq_self`).

The pieces between separators of two texts with a separator between them are those
of the one and then those of the other (`pieces_append`).  So the names of a path,
which are its pieces that are not empty, go one after the other when paths are put
together (`names_append`), and slashes at the ends add none (`names_trimSlashes`).
-/
import ArtifactStaging.Staging.Plan
import Mathlib.Data.List.DropRight

set_option autoImplicit false

namespace ArtifactStaging

namespace Text

section

variable {c : Char} {text before after : List Char}

/-! ## Trimming -/

theorem dropTrailing_eq (c : Char) (text : List Char) :
    dropTrailing c text = text.rdropWhile (· == c) := rfl

theorem getLast?_dropTrailing : (dropTrailing c text).getLast? ≠ some c := by
  intro h
  have hne : text.rdropWhile (· == c) ≠ [] := by
    intro heq
    rw [dropTrailing_eq, heq] at h
    cases h
  rw [dropTrailing_eq, List.getLast?_eq_some_getLast hne] at h
  exact List.rdropWhile_last_not _ _ hne (by simpa using h)

theorem dropTrailing_eq_self (h : text.getLast? ≠ some c) : dropTrailing c text = text := by
  rw [dropTrailing_eq, List.rdropWhile_eq_self_iff]
  intro hne hlast
  exact h ((List.getLast?_eq_some_getLast hne).trans (congrArg some (eq_of_beq hlast)))

/-- What is dropped at the end is nothing but separators. -/
theorem eq_dropTrailing_append (c : Char) (text : List Char) :
    ∃ count, text = dropTrailing c text ++ List.replicate count c := by
  refine ⟨(text.rtakeWhile (· == c)).length, ?_⟩
  have hsame : text.rtakeWhile (· == c) =
      List.replicate (text.rtakeWhile (· == c)).length c :=
    List.eq_replicate_iff.2 ⟨rfl, fun d hd => by simpa using List.mem_rtakeWhile_imp hd⟩
  rw [dropTrailing_eq, ← hsame, List.rdropWhile_append_rtakeWhile]

theorem getLast?_trim : (trim c text).getLast? ≠ some c := getLast?_dropTrailing

theorem head?_trim : (trim c text).head? ≠ some c := by
  intro h
  obtain ⟨count, hdrop⟩ := eq_dropTrailing_append c (text.dropWhile (· == c))
  have hfalse := List.head?_dropWhile_not (· == c) text
  rw [hdrop, List.head?_append,
    show dropTrailing c (text.dropWhile (· == c)) = trim c text from rfl,
    h] at hfalse
  simp at hfalse

theorem trim_eq_self (first : text.head? ≠ some c) (last : text.getLast? ≠ some c) :
    trim c text = text := by
  cases text with
  | nil => rfl
  | cons d rest =>
      have hd : d ≠ c := by simpa using first
      rw [trim, List.dropWhile_cons_of_neg (by simpa using hd), dropTrailing_eq_self last]

theorem trim_of_notMem (h : c ∉ text) : trim c text = text :=
  trim_eq_self (fun hhead => h (List.mem_of_head? hhead))
    fun hlast => h (List.mem_of_getLast? hlast)

theorem trim_trim : trim c (trim c text) = trim c text := trim_eq_self head?_trim getLast?_trim

/-- What is dropped at the front is nothing but separators. -/
theorem eq_append_dropWhile (c : Char) (text : List Char) :
    ∃ count, text = List.replicate count c ++ text.dropWhile (· == c) := by
  refine ⟨(text.takeWhile (· == c)).length, ?_⟩
  have hsame : text.takeWhile (· == c) =
      List.replicate (text.takeWhile (· == c)).length c :=
    List.eq_replicate_iff.2 ⟨rfl, fun d hd => by simpa using List.mem_takeWhile_imp hd⟩
  rw [← hsame, List.takeWhile_append_dropWhile]

/-- What is trimmed is nothing but separators. -/
theorem eq_trim (c : Char) (text : List Char) :
    ∃ front back, text = List.replicate front c ++ (trim c text ++ List.replicate back c) := by
  obtain ⟨front, hfront⟩ := eq_append_dropWhile c text
  obtain ⟨back, hback⟩ := eq_dropTrailing_append c (text.dropWhile (· == c))
  exact ⟨front, back, by rw [trim, ← hback, ← hfront]⟩

/-- Text that holds anything but separators is not trimmed away. -/
theorem trim_ne_nil {d : Char} (h : d ∈ text) (hd : d ≠ c) : trim c text ≠ [] := by
  intro htrim
  obtain ⟨front, back, heq⟩ := eq_trim c text
  rw [heq, htrim, List.nil_append] at h
  rcases List.mem_append.1 h with h | h <;> exact hd (List.eq_of_mem_replicate h)

theorem trim_eq_nil_iff : trim c text = [] ↔ ∀ d ∈ text, d = c := by
  constructor
  · intro hnil d h
    by_contra hd
    exact trim_ne_nil h hd hnil
  · intro separators
    obtain ⟨front, back, heq⟩ := eq_trim c text
    by_contra more
    obtain ⟨d, rest, hcons⟩ := List.exists_cons_of_ne_nil more
    have within : d ∈ text := by
      rw [heq, hcons]
      simp
    exact head?_trim (by rw [hcons, separators d within, List.head?_cons])

theorem trim_replicate_append (c : Char) (count : Nat) (text : List Char) :
    trim c (List.replicate count c ++ text) = trim c text := by
  induction count with
  | zero => rfl
  | succ count ih =>
      rw [List.replicate_succ, List.cons_append, trim, List.dropWhile_cons_of_pos (by simp)]
      exact ih

/-- Trimmed texts with a separator between them are trimmed. -/
theorem trim_append_cons (hbefore : trim c before ≠ []) (hafter : trim c after ≠ []) :
    trim c (trim c before ++ c :: trim c after) = trim c before ++ c :: trim c after := by
  refine trim_eq_self ?_ ?_
  · rw [List.head?_append, List.head?_eq_some_head hbefore, Option.some_or,
      ← List.head?_eq_some_head hbefore]
    exact head?_trim
  · rw [List.getLast?_append, List.getLast?_cons, List.getLast?_eq_some_getLast hafter]
    have hlast : (trim c after).getLast? ≠ some c := getLast?_trim
    rw [List.getLast?_eq_some_getLast hafter] at hlast
    simpa using hlast

theorem trimSlashes_eq_self {s : String} (first : s.toList.head? ≠ some '/')
    (last : s.toList.getLast? ≠ some '/') : trimSlashes s = s := by
  rw [trimSlashes, trim_eq_self first last, String.ofList_toList]

end

/-! ## Pieces -/

variable {α : Type} [DecidableEq α] {c : α} {text : List α}

theorem pieces_ne_nil (c : α) (text : List α) : pieces c text ≠ [] := by
  cases text with
  | nil => simp [pieces]
  | cons d rest =>
      rw [pieces]
      split
      · simp
      · split <;> simp

/-- The pieces of a text are those that the separator splits it into. -/
theorem pieces_eq_splitOn (c : α) (text : List α) : pieces c text = text.splitOn c := by
  induction text with
  | nil => rfl
  | cons d rest ih =>
      rw [pieces, ih, List.splitOn_cons_eq_if_modifyHead]
      by_cases hd : d = c
      · simp [hd]
      · cases hrest : rest.splitOn c with
        | nil => exact absurd (ih.trans hrest) (pieces_ne_nil c rest)
        | cons first others => simp [hd]

theorem pieces_inj {other : List α} : pieces c text = pieces c other ↔ text = other := by
  refine ⟨fun h => ?_, fun h => by rw [h]⟩
  rw [pieces_eq_splitOn, pieces_eq_splitOn] at h
  have hjoined := congrArg [c].intercalate h
  rwa [List.intercalate_splitOn, List.intercalate_splitOn] at hjoined

/-- What is no separator belongs to the first piece. -/
theorem pieces_cons {d : α} (h : d ≠ c) (rest : List α) :
    ∃ first others, pieces c rest = first :: others ∧
      pieces c (d :: rest) = (d :: first) :: others := by
  cases hrest : pieces c rest with
  | nil => exact absurd hrest (pieces_ne_nil c rest)
  | cons first others => exact ⟨first, others, rfl, by rw [pieces, if_neg h, hrest]⟩

theorem pieces_append (c : α) (before after : List α) :
    pieces c (before ++ c :: after) = pieces c before ++ pieces c after := by
  induction before with
  | nil => simp [pieces]
  | cons d before ih =>
      by_cases hd : d = c
      · simp [pieces, hd, ih]
      · cases hbefore : pieces c before with
        | nil => exact absurd hbefore (pieces_ne_nil c before)
        | cons first others => simp [pieces, hd, ih, hbefore]

theorem pieces_eq_singleton (h : c ∉ text) : pieces c text = [text] := by
  induction text with
  | nil => rfl
  | cons d rest ih =>
      obtain ⟨hd, hrest⟩ := not_or.1 (mt List.mem_cons.2 h)
      rw [pieces, if_neg (Ne.symm hd), ih hrest]

theorem notMem_of_mem_pieces {piece : List α} (h : piece ∈ pieces c text) : c ∉ piece := by
  induction text generalizing piece with
  | nil =>
      simp only [pieces, List.mem_singleton] at h
      simp [h]
  | cons d rest ih =>
      by_cases hd : d = c
      · simp only [pieces, hd, if_true, List.mem_cons] at h
        rcases h with rfl | h
        · simp
        · exact ih h
      · cases hrest : pieces c rest with
        | nil => exact absurd hrest (pieces_ne_nil c rest)
        | cons first others =>
            simp only [pieces, hd, if_false, hrest, List.mem_cons] at h
            rcases h with rfl | h
            · exact mt List.mem_cons.1
                (not_or.2 ⟨Ne.symm hd, ih (by rw [hrest]; exact List.mem_cons_self)⟩)
            · exact ih (by rw [hrest]; exact List.mem_cons_of_mem _ h)

theorem startsWith_slash (path : String) :
    startsWith path "/" = true ↔ path.toList.head? = some '/' := by
  rw [startsWith, show "/".toList = ['/'] from rfl]
  cases path.toList with
  | nil => decide
  | cons c path =>
      rw [List.isPrefixOf_cons_cons, List.isPrefixOf_nil_left, Bool.and_true, beq_iff_eq,
        List.head?_cons, Option.some.injEq, eq_comm]

end Text

namespace PathText

open Text

theorem isAbsolute_iff {path : String} : isAbsolute path = true ↔ path.toList.head? = some '/' :=
  startsWith_slash path

theorem endsInSlash_iff {path : String} :
    endsInSlash path = true ↔ path.toList.getLast? = some '/' := by
  rw [endsInSlash, Text.endsWith, List.isSuffixOf_iff_suffix,
    show "/".toList = ['/'] from rfl, List.singleton_suffix_iff_getLast?_eq_some]

/-! ## Names -/

theorem names_ofList_append (before after : List Char) :
    names (String.ofList (before ++ '/' :: after)) =
      names (String.ofList before) ++ names (String.ofList after) := by
  simp [names, split, pieces_append]

/-- A slash parts the names before it from those after it. -/
theorem names_append (before after : String) :
    names (before ++ "/" ++ after) = names before ++ names after := by
  have h := names_ofList_append before.toList after.toList
  rwa [String.ofList_toList, String.ofList_toList,
    show String.ofList (before.toList ++ '/' :: after.toList) = before ++ "/" ++ after from
      String.toList_inj.1 (by simp)] at h

@[simp] theorem names_empty : names "" = [] := by decide

theorem names_eq_singleton {name : String} (inhabited : name ≠ "") (whole : '/' ∉ name.toList) :
    names name = [name] := by
  simp [names, split, pieces_eq_singleton whole, inhabited]

theorem names_replicate_append (count : Nat) (text : List Char) :
    names (String.ofList (List.replicate count '/' ++ text)) = names (String.ofList text) := by
  induction count with
  | zero => rfl
  | succ count ih =>
      have h := names_ofList_append [] (List.replicate count '/' ++ text)
      rwa [ih, show String.ofList [] = "" from rfl, names_empty, List.nil_append] at h

theorem names_dropWhile (text : List Char) :
    names (String.ofList (text.dropWhile (· == '/'))) = names (String.ofList text) := by
  obtain ⟨count, htext⟩ := eq_append_dropWhile '/' text
  have h := names_replicate_append count (text.dropWhile (· == '/'))
  rw [← htext] at h
  exact h.symm

theorem names_append_replicate (text : List Char) (count : Nat) :
    names (String.ofList (text ++ List.replicate count '/')) = names (String.ofList text) := by
  induction count generalizing text with
  | zero => simp
  | succ count ih =>
      have h := names_ofList_append text (List.replicate count '/')
      rw [List.replicate_succ, h, ← List.nil_append (List.replicate count '/'), ih,
        show String.ofList [] = "" from rfl, names_empty, List.append_nil]

theorem names_ofList_trim (text : List Char) :
    names (String.ofList (trim '/' text)) = names (String.ofList text) := by
  obtain ⟨front, back, heq⟩ := eq_trim '/' text
  have h := names_replicate_append front (trim '/' text ++ List.replicate back '/')
  rw [← heq, names_append_replicate] at h
  exact h.symm

@[simp] theorem names_trimSlashes (path : String) : names (trimSlashes path) = names path := by
  have h := names_ofList_trim path.toList
  rwa [String.ofList_toList] at h

/-- A name is not empty and holds no slash. -/
theorem mem_names {path name : String} (h : name ∈ names path) :
    name ≠ "" ∧ '/' ∉ name.toList := by
  simp only [names, split, List.mem_filter, List.mem_map] at h
  obtain ⟨⟨piece, hpiece, rfl⟩, hname⟩ := h
  refine ⟨by simpa using hname, ?_⟩
  rw [String.toList_ofList]
  exact notMem_of_mem_pieces hpiece

end PathText

/-! ## Joined paths -/

open Text

theorem toList_joinRelative (first second : String) :
    (joinRelative first second).toList =
      if trim '/' first.toList = [] then trim '/' second.toList
      else if trim '/' second.toList = [] then trim '/' first.toList
      else trim '/' first.toList ++ '/' :: trim '/' second.toList := by
  have hempty (s : String) : (trimSlashes s).isEmpty = true ↔ trim '/' s.toList = [] := by
    rw [String.isEmpty_iff, ← String.toList_eq_nil_iff, toList_trimSlashes]
  unfold joinRelative
  dsimp only
  by_cases hfirst : trim '/' first.toList = []
  · rw [if_pos ((hempty _).2 hfirst), if_pos hfirst, toList_trimSlashes]
  · rw [if_neg (mt (hempty _).1 hfirst), if_neg hfirst]
    by_cases hsecond : trim '/' second.toList = []
    · rw [if_pos ((hempty _).2 hsecond), if_pos hsecond, toList_trimSlashes]
    · rw [if_neg (mt (hempty _).1 hsecond), if_neg hsecond]
      simp

/-- Slashes at the ends of what is joined do not count. -/
theorem joinRelative_congr {first second : String} (base : String)
    (h : trim '/' first.toList = trim '/' second.toList) :
    joinRelative base first = joinRelative base second := by
  rw [← String.toList_inj, toList_joinRelative, toList_joinRelative, h]

/-- Joining two paths is trimmed already. -/
theorem trim_joinRelative (first second : String) :
    trim '/' (joinRelative first second).toList = (joinRelative first second).toList := by
  rw [toList_joinRelative]
  split
  · exact trim_trim
  · next hfirst =>
    split
    · exact trim_trim
    · next hsecond => exact trim_append_cons hfirst hsecond

theorem joinRelative_assoc (first second third : String) :
    joinRelative (joinRelative first second) third =
      joinRelative first (joinRelative second third) := by
  rw [← String.toList_inj, toList_joinRelative (joinRelative first second), trim_joinRelative,
    toList_joinRelative first (joinRelative second third), trim_joinRelative,
    toList_joinRelative, toList_joinRelative]
  by_cases hfirst : trim '/' first.toList = [] <;>
    by_cases hsecond : trim '/' second.toList = [] <;>
    by_cases hthird : trim '/' third.toList = [] <;>
    simp [hfirst, hsecond, hthird]

/-- What is trimmed away stands for nothing, before another text or behind it. -/
theorem joinRelative_eq_trimSlashes {blank : String} (text : String)
    (h : trim '/' blank.toList = []) :
    joinRelative blank text = trimSlashes text ∧ joinRelative text blank = trimSlashes text := by
  simp only [← String.toList_inj, toList_joinRelative, toList_trimSlashes, h, if_true]
  refine ⟨trivial, ?_⟩
  split
  · next hempty => exact hempty.symm
  · rfl

/-- The names of joined paths are those of the one and then those of the other. -/
theorem names_joinRelative (base relative : String) :
    PathText.names (joinRelative base relative) =
      PathText.names base ++ PathText.names relative := by
  rw [← PathText.names_trimSlashes base, ← PathText.names_trimSlashes relative]
  unfold joinRelative
  dsimp only
  split
  · next hbase => rw [String.isEmpty_iff.1 hbase, PathText.names_empty, List.nil_append]
  · split
    · next hrelative =>
      rw [String.isEmpty_iff.1 hrelative, PathText.names_empty, List.append_nil]
    · exact PathText.names_append _ _

end ArtifactStaging
