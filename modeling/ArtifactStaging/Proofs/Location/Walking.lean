/-
# ArtifactStaging.Proofs.Location.Walking -- where the names of a path lead

A path is walked name by name, and a place is the list of names from the root: a dot stays, two
dots go up, and any other name goes down.  Links are left out of account, so this is what the text
of a path says and not what a file system makes of it.

Names `Leads` to a place beneath if they do so from everywhere, and `Descends` if that
is at least one step down.  Names that are
neither dots nor two dots lead to themselves (`leads_of_plain`), and after names that
lead down some way, two dots take back one step of it (`Leads.up`).
-/
import ArtifactStaging.Proofs.Location.Joining

set_option autoImplicit false

namespace ArtifactStaging.PathText

/-- Where a name leads from a place. -/
def step (place : List String) (name : String) : List String :=
  if name = "." then place
  else if name = ".." then place.dropLast
  else place ++ [name]

/-- Where names lead from a place. -/
def walk (place names : List String) : List String := names.foldl step place

/-- Whether a name leads down. -/
def Plain (name : String) : Prop := name ≠ "." ∧ name ≠ ".."

instance (name : String) : Decidable (Plain name) :=
  inferInstanceAs (Decidable (name ≠ "." ∧ name ≠ ".."))

/-- From everywhere, the names lead to a place beneath. -/
def Leads (names beneath : List String) : Prop :=
  ∀ place, walk place names = place ++ beneath

/-- From everywhere, the names lead down at least one step. -/
def Descends (names : List String) : Prop := ∃ beneath, Leads names beneath ∧ beneath ≠ []

variable {place beneath beneath' names names' : List String} {name : String}

@[simp] theorem walk_nil : walk place [] = place := rfl

@[simp] theorem walk_cons : walk place (name :: names) = walk (step place name) names := rfl

@[simp] theorem walk_append : walk place (names ++ names') = walk (walk place names) names' :=
  List.foldl_append

theorem step_plain (h : Plain name) : step place name = place ++ [name] := by
  rw [step, if_neg h.1, if_neg h.2]

theorem Leads.nil : Leads [] [] := fun place => (List.append_nil place).symm

theorem Leads.append (h : Leads names beneath) (h' : Leads names' beneath') :
    Leads (names ++ names') (beneath ++ beneath') := by
  intro place
  rw [walk_append, h, h', List.append_assoc]

theorem leads_singleton (h : Plain name) : Leads [name] [name] := fun _ => step_plain h

theorem leads_dot : Leads ["."] [] := fun place => by
  rw [walk_cons, walk_nil, PathText.step, if_pos rfl, List.append_nil]

/-- Names that lead down lead to themselves. -/
theorem leads_of_plain (h : ∀ name ∈ names, Plain name) : Leads names names := by
  induction names with
  | nil => exact .nil
  | cons name rest ih =>
      obtain ⟨first, others⟩ := List.forall_mem_cons.1 h
      exact (leads_singleton first).append (ih others)

/-- After names that lead down, one more name takes one step from where they lead. -/
theorem Leads.step (h : Leads names beneath) (down : beneath ≠ []) (name : String) :
    Leads (names ++ [name]) (step beneath name) := by
  intro place
  rw [walk_append, h, walk_cons, walk_nil, PathText.step, PathText.step]
  split
  · rfl
  · split
    · rw [List.dropLast_append_of_ne_nil down]
    · rw [List.append_assoc]

/-- Two dots take back one step of the way down. -/
theorem Leads.up (h : Leads names beneath) (down : beneath ≠ []) :
    Leads (names ++ [".."]) beneath.dropLast :=
  h.step down ".."

/-! ## The last name -/

theorem mem_names_of_mem_components {path : String} (h : name ∈ components path) :
    name ∈ PathText.names path := by
  unfold components at h
  split at h
  · cases h
  · next first rest hnames =>
    rw [hnames]
    dsimp only at h
    split at h
    · exact List.mem_cons_of_mem _ (List.mem_of_mem_filter h)
    · rcases List.mem_cons.1 h with rfl | h
      · exact List.mem_cons_self
      · exact List.mem_cons_of_mem _ (List.mem_of_mem_filter h)

theorem mem_names_of_lastComponent? {path : String} (h : lastComponent? path = some name) :
    name ∈ PathText.names path :=
  mem_names_of_mem_components (List.mem_of_getLast? h)

/-- A file name is one name, and leads down. -/
theorem names_of_fileName? {path : String} (h : fileName? path = some name) :
    Plain name ∧ PathText.names name = [name] := by
  obtain ⟨hlast, hplain⟩ := Option.filter_eq_some_iff.1 h
  obtain ⟨inhabited, whole⟩ := mem_names (mem_names_of_lastComponent? hlast)
  exact ⟨by simpa [Plain] using hplain, names_eq_singleton inhabited whole⟩

/-! ## Names put together -/

/-- Names that are not empty and hold no slash, with slashes between them. -/
theorem names_join (proper : ∀ name ∈ names, name ≠ "" ∧ '/' ∉ name.toList) :
    PathText.names (Text.join "/" names) = names := by
  induction names with
  | nil => exact names_empty
  | cons first rest ih =>
      obtain ⟨⟨inhabited, whole⟩, others⟩ := List.forall_mem_cons.1 proper
      cases rest with
      | nil => exact names_eq_singleton inhabited whole
      | cons second rest =>
          rw [Text.join, String.intercalate_cons_cons, names_append, names_eq_singleton inhabited
            whole]
          exact congrArg (first :: ·) (ih others)

end ArtifactStaging.PathText

namespace ArtifactStaging.Location

/-- A location lies beneath another if the names between them lead down. -/
def Beneath (base location : Location) : Prop :=
  ∃ rest, base.relativize? location = some rest ∧ PathText.Descends (PathText.names rest)

/-- The name of what is read, the root apart, is one name of a path. -/
theorem Normal.name {location : Location} (normal : location.Normal) (h : location.isRoot = false) :
    location.name ≠ "" ∧ '/' ∉ location.name.toList := by
  have hroot : location.path ≠ "/" := by simpa [isRoot] using h
  rw [Location.name, if_neg (by simp [h]), Text.lastSegment]
  split
  · next before after hcut =>
    obtain ⟨hpath, hafter⟩ := Text.cutLast?_eq_some hcut
    refine ⟨fun hempty => hroot (normal.trailing ?_), by simpa using hafter⟩
    rw [hpath, String.ofList_eq_empty_iff.1 hempty]
    simp
  · next hcut => exact ⟨normal.inhabited, Text.cutLast?_eq_none.1 hcut⟩

end ArtifactStaging.Location
