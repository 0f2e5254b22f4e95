/-
# ArtifactStaging.Proofs.Location.Separation -- applications keep out of each other's way

Two locations are `Apart` if neither lies beneath the other and nothing joined to one of
them is anything joined to the other.  That is so of locations with as many names each, of
which some differ (`apart_of_names`): joining only adds names behind those that differ.

The names of an application's directory are those of the home directory, the namespace
with its dot and the identifier.  Neither of the last two holds a slash, so they can be told
from the path, and the directories of two applications under one home directory are apart
as soon as the namespaces or the identifiers differ (`applicationDirectory_apart`).
-/
import ArtifactStaging.Proofs.Location.ApplicationDirectory

set_option autoImplicit false

namespace ArtifactStaging

/-! ## Locations -/

namespace Location

/-- Neither location lies beneath the other, and what is joined to them differs. -/
structure Apart (first second : Location) : Prop where
  notBeneath : first.relativize? second = none
  notAbove : second.relativize? first = none
  joined : ∀ relative relative', first.join relative ≠ second.join relative'

variable {first second : Location}

/-- A location lies beneath none with as many names, unless the names are the same. -/
theorem relativize?_eq_none_of_names
    (level : (PathText.names first.path).length = (PathText.names second.path).length)
    (differ : PathText.names first.path ≠ PathText.names second.path) :
    first.relativize? second = none := by
  rw [Option.eq_none_iff_forall_ne_some]
  intro rest hrest
  have hnames := names_of_relativize? hrest
  have hnone : PathText.names rest = [] := by
    have hlength := congrArg List.length hnames
    rw [List.length_append] at hlength
    exact List.length_eq_zero_iff.1 (by omega)
  rw [hnone, List.append_nil] at hnames
  exact differ hnames.symm

theorem apart_of_names (normal : first.Normal) (normal' : second.Normal)
    (level : (PathText.names first.path).length = (PathText.names second.path).length)
    (differ : PathText.names first.path ≠ PathText.names second.path) : first.Apart second where
  notBeneath := relativize?_eq_none_of_names level differ
  notAbove := relativize?_eq_none_of_names level.symm differ.symm
  joined relative relative' same := by
    have hnames := congrArg (fun location => PathText.names location.path) same
    rw [names_join normal, names_join normal'] at hnames
    exact differ (List.append_inj_left hnames level)

end Location

/-! ## Applications -/

section

variable {home : Location} {raw space space' : String} {settings settings' : Settings}

/-- A namespace and an identifier can be told from the names of the directory. -/
theorem names_applicationDirectory_inj (normal : home.Normal)
    (segment : Settings.isSegment space = true) (segment' : Settings.isSegment space' = true)
    (id id' : ApplicationId) :
    PathText.names (applicationDirectory home space id).path =
        PathText.names (applicationDirectory home space' id').path ↔
      space = space' ∧ id = id' := by
  rw [names_applicationDirectory normal segment, names_applicationDirectory normal segment',
    List.append_cancel_left_eq]
  simp [← String.toList_inj, ← ApplicationId.text_inj]

/-- **Applications keep out of each other's way.**  Under a home directory that was read, with
namespaces that the settings accept, the directories of two applications are one only if the
namespace and the identifier are.  If they are two, neither lies beneath the other, and nothing that
is joined to the one is anything that is joined to the other. -/
theorem applicationDirectory_apart (read : Location.parse? raw = some home)
    (accepted : settings.validate = .ok ()) (accepted' : settings'.validate = .ok ())
    (id id' : ApplicationId) :
    (applicationDirectory home settings.space id = applicationDirectory home settings'.space id' ↔
      settings.space = settings'.space ∧ id = id') ∧
    (applicationDirectory home settings.space id ≠ applicationDirectory home settings'.space id' →
      (applicationDirectory home settings.space id).Apart
        (applicationDirectory home settings'.space id')) := by
  have normal := Location.normal_of_parse? read
  have segment := (Settings.validate_ok_iff.1 accepted).2.2.1
  have segment' := (Settings.validate_ok_iff.1 accepted').2.2.1
  have told := names_applicationDirectory_inj normal segment segment' id id'
  constructor
  · constructor
    · intro same
      exact told.1 (by rw [same])
    · rintro ⟨hspace, rfl⟩
      rw [hspace]
  · intro differ
    refine Location.apart_of_names (normal_applicationDirectory _ _ _)
      (normal_applicationDirectory _ _ _) ?_ fun hnames => differ ?_
    · rw [names_applicationDirectory normal segment, names_applicationDirectory normal segment']
      simp
    · obtain ⟨hspace, rfl⟩ := told.1 hnames
      rw [hspace]

/-- Under one namespace, the identifier of one application begins that of the other. -/
theorem applicationDirectory_apart_sample :
    Location.parse? "h" = some (Sample.here "h") ∧ (Sample.named "n").validate = .ok () ∧
      (applicationDirectory (Sample.here "h") "n" Sample.applicationId).Apart
        (applicationDirectory (Sample.here "h") "n" ⟨"i.j", by decide⟩) := by
  have read : Location.parse? "h" = some (Sample.here "h") := by decide
  have accepted : (Sample.named "n").validate = .ok () := by decide
  exact ⟨read, accepted,
    (applicationDirectory_apart read accepted accepted Sample.applicationId _).2 (by decide)⟩

end

end ArtifactStaging
