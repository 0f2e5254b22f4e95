/-
# ArtifactStaging.Proofs.Location.ApplicationDirectory -- where an application's directory is

An identifier is one segment of a path that leads down, and so is a namespace with its
dot before it, unless it is a dot itself: `.` passes the check of the settings, and with
the dot before it, it leads up.

`applicationDirectory_leads` says where the directory is for every home directory, every
namespace that the settings accept and every identifier.
-/
import ArtifactStaging.Proofs.CommandLine.StageRun
import ArtifactStaging.Proofs.Location.Walking

set_option autoImplicit false

namespace ArtifactStaging

open Text

/-! ## Segments -/

namespace ApplicationId

/-- An identifier starts with a letter or a digit and goes on with the characters allowed. -/
theorem characters (id : ApplicationId) :
    ∃ first rest, id.text.toList = first :: rest ∧ first.isAlphanum = true ∧
      ∀ c ∈ rest, isIdChar c = true := by
  obtain ⟨text, valid⟩ := id
  unfold checkId at valid
  split at valid
  · cases valid
  split at valid
  · cases valid
  next first rest htext =>
  split at valid
  · cases valid
  next hfirst =>
  split at valid
  · cases valid
  next hrest =>
  exact ⟨first, rest, htext, by simpa using hfirst,
    fun c hc => by simpa using List.find?_eq_none.1 hrest c hc⟩

theorem text_inj {id other : ApplicationId} : id.text = other.text ↔ id = other := by
  cases id
  cases other
  simp

theorem plain (id : ApplicationId) : PathText.Plain id.text := by
  obtain ⟨first, rest, htext, hfirst, -⟩ := id.characters
  constructor <;> intro heq <;> rw [heq] at htext <;> cases htext <;> cases hfirst

theorem ne_empty (id : ApplicationId) : id.text ≠ "" := by
  obtain ⟨first, rest, htext, -, -⟩ := id.characters
  intro heq
  rw [heq] at htext
  cases htext

theorem notMem_slash (id : ApplicationId) : '/' ∉ id.text.toList := by
  obtain ⟨first, rest, htext, hfirst, hrest⟩ := id.characters
  rw [htext, List.mem_cons, not_or]
  constructor
  · rintro rfl
    simp at hfirst
  · intro h
    cases hrest '/' h

end ApplicationId

namespace Settings

variable {settings : Settings} {space : String}

/-- What the check of the settings demands. -/
theorem validate_ok_iff :
    settings.validate = .ok () ↔
      settings.replication ≠ 0 ∧ settings.retry.attempts ≠ 0 ∧
        isSegment settings.space = true ∧ trimSlashes settings.resourcesDirectory ≠ "" ∧
        settings.dist.lead ≠ "" ∧ (∃ home, settings.homeLocation = .ok home) ∧
        ∃ shared, settings.sharedLocations = .ok shared := by
  simp only [validate, Except.throw_bind, Except.error_ite_ok_iff, Except.bind_ok_iff]
  simp [pure, Except.pure]

theorem isSegment_iff :
    isSegment space = true ↔
      space ≠ "" ∧ '/' ∉ space.toList ∧ occursIn ".." space = false := by
  simp [isSegment, and_assoc]

/-- With its dot, a namespace leads down, unless it is a dot. -/
theorem plain_dot (h : isSegment space = true) (hdot : space ≠ ".") :
    PathText.Plain ("." ++ space) := by
  have hne := (isSegment_iff.1 h).1
  constructor <;> intro heq <;> rw [← String.toList_inj, String.toList_append] at heq
  · exact hne (String.toList_eq_nil_iff.1 (List.cons.inj heq).2)
  · exact hdot (String.toList_inj.1 (List.cons.inj heq).2)

end Settings

/-! ## The directory -/

section

variable {home : Location} {space raw : String} {settings : Settings} {id : ApplicationId}

/-- What is added to a home directory ends in no slash, and starts with none. -/
theorem trimSlashes_added (space : String) (id : ApplicationId) :
    trimSlashes ("." ++ space ++ "/" ++ id.text) = "." ++ space ++ "/" ++ id.text := by
  refine trimSlashes_eq_self (by simp) ?_
  have hne : id.text.toList ≠ [] := mt String.toList_eq_nil_iff.1 id.ne_empty
  rw [String.toList_append, List.getLast?_append, List.getLast?_eq_some_getLast hne,
    Option.some_or]
  exact fun heq => id.notMem_slash (Option.some.inj heq ▸ List.getLast_mem hne)

theorem normal_applicationDirectory (home : Location) (space : String) (id : ApplicationId) :
    (applicationDirectory home space id).Normal :=
  Location.normal_join (trim_ne_nil (d := '.') (by simp) (by decide))

/-- The part of an application's directory that lies beneath the home directory. -/
theorem relativize?_applicationDirectory (normal : home.Normal) (space : String)
    (id : ApplicationId) :
    home.relativize? (applicationDirectory home space id) =
      some ("." ++ space ++ "/" ++ id.text) := by
  rw [applicationDirectory, Location.relativize?_join normal
    (trim_ne_nil (d := '.') (by simp) (by decide)), trimSlashes_added]

theorem names_added (h : Settings.isSegment space = true) (id : ApplicationId) :
    PathText.names ("." ++ space ++ "/" ++ id.text) = ["." ++ space, id.text] := by
  have hslash := (Settings.isSegment_iff.1 h).2.1
  have hspace : PathText.names ("." ++ space) = ["." ++ space] :=
    PathText.names_eq_singleton (by simp) (by simpa using hslash)
  rw [PathText.names_append, hspace, PathText.names_eq_singleton id.ne_empty id.notMem_slash]
  rfl

/-- The names of an application's directory. -/
theorem names_applicationDirectory (normal : home.Normal)
    (segment : Settings.isSegment space = true) (id : ApplicationId) :
    PathText.names (applicationDirectory home space id).path =
      PathText.names home.path ++ ["." ++ space, id.text] := by
  rw [Location.names_of_relativize? (relativize?_applicationDirectory normal space id),
    names_added segment id]

/-- **Where an application's directory is.**  Under a home directory that was read, with a
namespace that the settings accept, the directory is the home directory extended by two segments,
of which the second is the identifier.  The first is hidden and leads down, unless the namespace
is a dot; then it leads up, and the directory lies beside the home directory. -/
theorem applicationDirectory_leads (read : Location.parse? raw = some home)
    (accepted : settings.validate = .ok ()) (id : ApplicationId) :
    ∃ rest, home.relativize? (applicationDirectory home settings.space id) = some rest ∧
      PathText.names rest = ["." ++ settings.space, id.text] ∧
      (settings.space ≠ "." →
        PathText.Leads (PathText.names rest) ["." ++ settings.space, id.text]) ∧
      (settings.space = "." →
        ∀ place, PathText.walk place (PathText.names rest) = place.dropLast ++ [id.text]) := by
  have hsegment := (Settings.validate_ok_iff.1 accepted).2.2.1
  have hnames := names_added hsegment id
  refine ⟨_, relativize?_applicationDirectory (Location.normal_of_parse? read) _ _, hnames, ?_, ?_⟩
  · intro hdot
    rw [hnames]
    exact (PathText.leads_singleton (Settings.plain_dot hsegment hdot)).append
      (PathText.leads_singleton id.plain)
  · intro hdot place
    rw [hnames, hdot, PathText.walk_cons, PathText.walk_cons, PathText.walk_nil,
      PathText.step_plain id.plain]
    rfl

/-- Settings of the small machine that are accepted, with a namespace. -/
def Sample.named (space : String) : Settings :=
  { Sample.settings with space, dist := { Sample.settings.dist with lead := "d" } }

/-- The settings of the small machine. -/
theorem applicationDirectory_leads_sample :
    Location.parse? "h" = some (Sample.here "h") ∧ (Sample.named "n").validate = .ok () ∧
      ∃ rest,
        (Sample.here "h").relativize?
          (applicationDirectory (Sample.here "h") "n" Sample.applicationId) = some rest ∧
        PathText.names rest = [".n", "i"] ∧
        PathText.Leads (PathText.names rest) [".n", "i"] := by
  have read : Location.parse? "h" = some (Sample.here "h") := by decide
  have accepted : (Sample.named "n").validate = .ok () := by decide
  obtain ⟨rest, hrest, hnames, hleads, -⟩ :=
    applicationDirectory_leads read accepted Sample.applicationId
  exact ⟨read, accepted, rest, hrest, hnames, hleads (by decide)⟩

/-- A dot is accepted as a namespace, and the directory lies beside the home directory. -/
theorem applicationDirectory_beside :
    ¬ ∀ (raw : String) (home : Location) (settings : Settings) (id : ApplicationId),
      Location.parse? raw = some home → settings.validate = .ok () →
        ∃ rest, home.relativize? (applicationDirectory home settings.space id) = some rest ∧
          PathText.Leads (PathText.names rest) ["." ++ settings.space, id.text] := by
  intro claim
  have read : Location.parse? "h" = some (Sample.here "h") := by decide
  obtain ⟨rest, hrest, hleads⟩ :=
    claim "h" _ (Sample.named ".") Sample.applicationId read (by decide)
  have hadded : (Sample.here "h").relativize?
      (applicationDirectory (Sample.here "h") "." Sample.applicationId) = some "../i" := by
    decide
  obtain rfl := Option.some.inj (hrest.symm.trans hadded)
  have hwalk : PathText.walk ["h"] (PathText.names "../i") = ["i"] := by decide
  exact absurd (hwalk.symm.trans (hleads ["h"])) (by decide)

end

/-! ## Copies -/

namespace Uploader

variable {uploader : Uploader} {directory fileName path : String}

/-- What is copied goes into the application's directory, under its own name. -/
theorem relativize?_destinationOf (normal : uploader.applicationDirectory.Normal)
    (named : PathText.fileName? path = some fileName) :
    uploader.applicationDirectory.relativize? (uploader.destinationOf directory fileName) =
      some (joinRelative directory fileName) := by
  have hnames := names_joinRelative directory fileName
  rw [(PathText.names_of_fileName? named).2] at hnames
  have inhabited : (joinRelative directory fileName).toList ≠ [] := by
    intro hempty
    rw [String.toList_eq_nil_iff.1 hempty] at hnames
    simp at hnames
  rw [destinationOf, Location.join_join, Location.relativize?_join normal,
    ← String.ofList_toList (s := joinRelative directory fileName), trimSlashes,
    String.toList_ofList, trim_joinRelative]
  rwa [trim_joinRelative]

end Uploader

end ArtifactStaging
