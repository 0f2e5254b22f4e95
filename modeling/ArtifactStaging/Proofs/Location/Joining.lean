/-
# ArtifactStaging.Proofs.Location.Joining -- moving down from a location and back

A location that was read is `Normal`: its path is not empty and ends in a slash
only if it is the root.  Joining keeps this (`Normal.join`), and from a normal
location

* what was joined is what relativizing answers, trimmed (`relativize?_join`);
* the names of the path go on with the names of what was joined (`names_join`).

From any location, joining twice is joining the joined (`join_join`), and what was joined
tells what was joined to it (`join_inj`).  So joining is an action of texts on locations, and
the texts that are nothing but slashes are the ones that do nothing (`join_acts`).
-/
import ArtifactStaging.Proofs.Text.Slashes

set_option autoImplicit false

namespace ArtifactStaging.Location

open Text

/-! ## Normal locations -/

/-- A location as it is read: something is its path, and only the root ends in a slash. -/
structure Normal (location : Location) : Prop where
  inhabited : location.path ≠ ""
  trailing : location.path.toList.getLast? = some '/' → location.path = "/"

variable {location child base : Location} {raw relative first second rest : String}

theorem normalize_ne_nil {text : List Char} (h : text ≠ []) : normalize text ≠ [] := by
  unfold normalize
  split
  · rw [if_neg (by simpa using h)]
    simp
  · next trimmed => exact trimmed

theorem getLast?_normalize {text : List Char} (h : (normalize text).getLast? = some '/') :
    normalize text = ['/'] := by
  unfold normalize at h ⊢
  split at h
  · split at h
    · cases h
    · next hempty => rw [if_neg hempty]
  · exact absurd h getLast?_dropTrailing

theorem normalize_eq_self {text : List Char} (h : text.getLast? ≠ some '/') :
    normalize text = text := by
  rw [normalize, dropTrailing_eq_self h]
  split <;> simp

theorem normal_ofList_normalize (scheme : Option String) (authority : String)
    {text : List Char} (h : text ≠ []) :
    Normal ⟨scheme, authority, String.ofList (normalize text)⟩ where
  inhabited := by simpa using normalize_ne_nil h
  trailing := by
    intro hlast
    rw [String.toList_ofList] at hlast
    rw [getLast?_normalize hlast]

theorem authorityAndPath_path_ne_nil (text : List Char) : (authorityAndPath text).2 ≠ [] := by
  unfold authorityAndPath
  split <;> simp

/-- A location that was read is normal. -/
theorem normal_of_parse? (h : parse? raw = some location) : location.Normal := by
  unfold parse? at h
  dsimp only at h
  split at h
  · cases h
  next inhabited =>
  obtain rfl := Option.some.inj h
  cases hauthority : parseAuthorityForm? raw.toList with
  | some read =>
      unfold parseAuthorityForm? at hauthority
      split at hauthority
      · cases hauthority
      · next scheme tail _ =>
        split at hauthority
        · cases hauthority
          exact normal_ofList_normalize _ _ (authorityAndPath_path_ne_nil tail)
        · cases hauthority
  | none =>
      cases hbare : parseBareForm? raw.toList with
      | some read =>
          unfold parseBareForm? at hbare
          split at hbare
          · cases hbare
          · next scheme tail _ =>
            split at hbare
            · next hform =>
              cases hbare
              exact normal_ofList_normalize _ _ (by simp at hform; exact hform.2)
            · cases hbare
      | none => exact normal_ofList_normalize _ _ (by simpa using inhabited)

/-! ## Joining -/

@[simp] theorem scheme_join : (location.join relative).scheme = location.scheme := by
  unfold join
  dsimp only
  split <;> rfl

@[simp] theorem authority_join : (location.join relative).authority = location.authority := by
  unfold join
  dsimp only
  split <;> rfl

@[simp] theorem isRemote_join : (location.join relative).isRemote = location.isRemote := by
  simp [isRemote]

/-- What stands before the part of a path that lies beneath a location. -/
def lead (location : Location) : List Char :=
  if location.isRoot then ['/'] else location.path.toList ++ ['/']

theorem lead_ne_nil (location : Location) : location.lead ≠ [] := by
  unfold lead
  split <;> simp

theorem join_eq_self (h : trim '/' relative.toList = []) : location.join relative = location := by
  simp [join, h]

/-- What stands before what is joined, whatever the location. -/
def bound (location : Location) : List Char :=
  if location.path.toList.getLast? = some '/' then location.path.toList
  else location.path.toList ++ ['/']

theorem toList_join (location : Location) (h : trim '/' relative.toList ≠ []) :
    (location.join relative).path.toList = location.bound ++ trim '/' relative.toList := by
  have hlast : (location.bound ++ trim '/' relative.toList).getLast? ≠ some '/' := by
    rw [List.getLast?_append_of_ne_nil _ h]
    exact getLast?_trim
  unfold join
  dsimp only
  rw [if_neg (by simpa using h), String.toList_ofList, ← normalize_eq_self hlast, bound]
  split <;> simp

theorem bound_eq_append (location : Location) : ∃ front, location.bound = front ++ ['/'] := by
  unfold bound
  split
  · next hslash => exact List.getLast?_eq_some_iff.1 hslash
  · exact ⟨_, rfl⟩

theorem Normal.bound_eq_lead (normal : location.Normal) : location.bound = location.lead := by
  unfold bound lead isRoot
  by_cases hroot : location.path = "/"
  · rw [hroot]
    rfl
  · rw [if_neg fun heq => hroot (normal.trailing heq), if_neg (by simpa using hroot)]

theorem path_join (normal : location.Normal) (h : trim '/' relative.toList ≠ []) :
    (location.join relative).path.toList = location.lead ++ trim '/' relative.toList := by
  rw [toList_join location h, normal.bound_eq_lead]

/-- Joined something, a location is the root no more. -/
theorem isRoot_join (normal : location.Normal) (h : trim '/' relative.toList ≠ []) :
    (location.join relative).isRoot = false := by
  rw [isRoot, beq_eq_false_iff_ne]
  intro hroot
  have hpath := path_join normal h
  rw [hroot] at hpath
  have hlength : 1 = location.lead.length + (trim '/' relative.toList).length := by
    rw [← List.length_append, ← hpath]
    rfl
  have := List.length_pos_iff.2 h
  have := List.length_pos_iff.2 (lead_ne_nil location)
  omega

/-- Joined something, a location is normal, whatever it was before. -/
theorem normal_join (h : trim '/' relative.toList ≠ []) : (location.join relative).Normal := by
  unfold join
  dsimp only
  rw [if_neg (by simpa using h)]
  refine normal_ofList_normalize location.scheme location.authority ?_
  split <;> simp [h]

theorem Normal.join (normal : location.Normal) : (location.join relative).Normal := by
  by_cases h : trim '/' relative.toList = []
  · rwa [join_eq_self h]
  · exact normal_join h

/-! ## Relativizing -/

theorem relativize?_eq_some :
    location.relativize? child = some rest ↔
      location.scheme = child.scheme ∧ location.authority = child.authority ∧
        child.path.toList = location.lead ++ rest.toList ∧ rest ≠ "" := by
  unfold relativize? lead
  by_cases h : location.scheme = child.scheme ∧ location.authority = child.authority
  · rw [if_pos h]
    simp only [h.1, h.2, true_and]
    split
    · next hlead =>
      refine ⟨fun heq => (by cases heq), fun heq => ?_⟩
      rw [afterLead?_eq_some.2 heq.1] at hlead
      cases hlead
    · next hlead =>
      refine ⟨fun heq => (by cases heq), fun heq => ?_⟩
      rw [afterLead?_eq_some.2 heq.1] at hlead
      exact absurd (String.toList_eq_nil_iff.1 (Option.some.inj hlead)) heq.2
    · next found hne hlead =>
      rw [afterLead?_eq_some] at hlead
      constructor
      · intro heq
        obtain rfl := Option.some.inj heq
        exact ⟨by rw [hlead, String.toList_ofList], by simpa using hne⟩
      · rintro ⟨heq, -⟩
        rw [heq] at hlead
        rw [← List.append_cancel_left hlead, String.ofList_toList]
  · rw [if_neg h]
    simp only [reduceCtorEq, false_iff]
    exact fun heq => h ⟨heq.1, heq.2.1⟩

/-- What was joined lies beneath, as what it is when trimmed. -/
theorem relativize?_join (normal : location.Normal) (h : trim '/' relative.toList ≠ []) :
    location.relativize? (location.join relative) = some (trimSlashes relative) :=
  relativize?_eq_some.2 ⟨scheme_join.symm, authority_join.symm,
    by rw [path_join normal h, toList_trimSlashes],
    fun heq => h (by rw [← toList_trimSlashes, heq]; rfl)⟩

/-! ## Joining twice -/

theorem join_congr (h : trim '/' first.toList = trim '/' second.toList) :
    location.join first = location.join second := by
  simp only [join, h]

theorem eq_of_path {location other : Location} (scheme : location.scheme = other.scheme)
    (authority : location.authority = other.authority)
    (path : location.path.toList = other.path.toList) : location = other := by
  cases location
  cases other
  simp_all [String.toList_inj]

/-- Joining twice is joining the joined, whatever the location. -/
theorem join_join (location : Location) (first second : String) :
    (location.join first).join second = location.join (joinRelative first second) := by
  by_cases hfirst : trim '/' first.toList = []
  · rw [join_eq_self hfirst]
    exact join_congr (by rw [trim_joinRelative, toList_joinRelative, if_pos hfirst])
  by_cases hsecond : trim '/' second.toList = []
  · rw [join_eq_self hsecond]
    exact join_congr
      (by rw [trim_joinRelative, toList_joinRelative, if_neg hfirst, if_pos hsecond])
  have hjoined : trim '/' (joinRelative first second).toList =
      trim '/' first.toList ++ '/' :: trim '/' second.toList := by
    rw [trim_joinRelative, toList_joinRelative, if_neg hfirst, if_neg hsecond]
  have hbound : (location.join first).bound =
      location.bound ++ trim '/' first.toList ++ ['/'] := by
    rw [bound, toList_join location hfirst, if_neg]
    rw [List.getLast?_append_of_ne_nil _ hfirst]
    exact getLast?_trim
  refine eq_of_path (by simp) (by simp) ?_
  rw [toList_join _ hsecond, toList_join location (by simp [hjoined]), hjoined, hbound]
  simp

/-- What was joined tells what was joined to it, slashes at the ends apart. -/
theorem join_inj (location : Location) :
    location.join first = location.join second ↔
      trim '/' first.toList = trim '/' second.toList := by
  -- What is joined makes a path longer.
  have longer {relative : String} (h : trim '/' relative.toList ≠ []) :
      location.join relative ≠ location := by
    intro heq
    have hpath := toList_join location h
    rw [heq, bound] at hpath
    have hlength := congrArg List.length hpath
    have := List.length_pos_iff.2 h
    rw [List.length_append] at hlength
    split at hlength
    · omega
    · rw [List.length_append, List.length_singleton] at hlength
      omega
  refine ⟨fun h => ?_, join_congr⟩
  by_cases hfirst : trim '/' first.toList = []
  · by_contra hne
    rw [hfirst] at hne
    exact longer (Ne.symm hne) (h.symm.trans (join_eq_self hfirst))
  · by_cases hsecond : trim '/' second.toList = []
    · exact absurd (h.trans (join_eq_self hsecond)) (longer hfirst)
    · have hpath := congrArg (fun joined => joined.path.toList) h
      rw [toList_join location hfirst, toList_join location hsecond] at hpath
      exact List.append_cancel_left hpath

theorem join_eq_self_iff : location.join relative = location ↔ trim '/' relative.toList = [] := by
  have nothing : location.join "" = location := join_eq_self rfl
  have h : location.join relative = location.join "" ↔ _ := join_inj location
  rwa [nothing] at h

/-- **Joining is an action.**  From any location, joining one text and then another is joining the
two joined.  Joining texts is associative, and what comes of it neither begins nor ends with a
slash.  The texts that join without a trace are those that hold nothing but slashes: to any
location, and before and behind any text that is trimmed. -/
theorem join_acts (location : Location) (first second third : String) :
    (location.join first).join second = location.join (joinRelative first second) ∧
    joinRelative (joinRelative first second) third =
      joinRelative first (joinRelative second third) ∧
    (joinRelative first second).toList.head? ≠ some '/' ∧
    (joinRelative first second).toList.getLast? ≠ some '/' ∧
    (location.join first = location ↔ ∀ c ∈ first.toList, c = '/') ∧
    ((∀ text : String, text.toList.head? ≠ some '/' → text.toList.getLast? ≠ some '/' →
        joinRelative first text = text ∧ joinRelative text first = text) ↔
      ∀ c ∈ first.toList, c = '/') := by
  have trimmed := trim_joinRelative first second
  refine ⟨join_join location first second, joinRelative_assoc first second third, ?_, ?_, ?_, ?_⟩
  · rw [← trimmed]
    exact head?_trim
  · rw [← trimmed]
    exact getLast?_trim
  · rw [join_eq_self_iff, trim_eq_nil_iff]
  · rw [← trim_eq_nil_iff]
    constructor
    · intro identity
      -- The empty text is trimmed, and what joins it without a trace is trimmed away.
      obtain ⟨hempty, -⟩ := identity "" (by simp) (by simp)
      have htrim := congrArg String.toList hempty
      rw [toList_joinRelative] at htrim
      by_contra more
      rw [if_neg more] at htrim
      exact more (by simpa [trim, dropTrailing] using htrim)
    · intro blank text first' last
      have joined := joinRelative_eq_trimSlashes text blank
      rwa [trimSlashes_eq_self first' last] at joined

/-! ## Names -/

/-- What stands behind the lead of a location adds its names to those of the location. -/
theorem names_lead_append (location : Location) (text : List Char) :
    PathText.names (String.ofList (location.lead ++ text)) =
      PathText.names location.path ++ PathText.names (String.ofList text) := by
  unfold lead isRoot
  split
  · next hroot =>
    rw [eq_of_beq hroot]
    exact PathText.names_ofList_append [] text
  · have h := PathText.names_ofList_append location.path.toList text
    rw [String.ofList_toList] at h
    rw [List.append_assoc]
    exact h

theorem names_of_relativize? (h : location.relativize? child = some rest) :
    PathText.names child.path = PathText.names location.path ++ PathText.names rest := by
  obtain ⟨-, -, hpath, -⟩ := relativize?_eq_some.1 h
  rw [← String.ofList_toList (s := child.path), hpath, names_lead_append, String.ofList_toList]

/-- The names of a joined location go on with those of what was joined. -/
theorem names_join (normal : location.Normal) (relative : String) :
    PathText.names (location.join relative).path =
      PathText.names location.path ++ PathText.names relative := by
  by_cases h : trim '/' relative.toList = []
  · rw [join_eq_self h, ← PathText.names_trimSlashes relative, trimSlashes, h]
    exact (List.append_nil _).symm
  · rw [names_of_relativize? (relativize?_join normal h), PathText.names_trimSlashes]

end ArtifactStaging.Location
