/-
# ArtifactStaging.Proofs.Staging.Confinement -- where bulk registration copies to

A file goes to the application's directory, then to the directory of its destination,
then to its own name.  The destination is made of the directory for resources, of the
last component of the input, which may be two dots, and of names in the file system.
So if the directory for resources leads down at least one step, two dots take back one
step of it at most, and what is copied lies beneath the application's directory
(`beneath_destinationOf`).

The check of the settings does not demand that the directory for resources leads down
(`copies_escape`).
-/
import ArtifactStaging.Proofs.Location.ApplicationDirectory
import ArtifactStaging.Proofs.Staging.Planning
import ArtifactStaging.Proofs.Storage.Rehearsing

set_option autoImplicit false

namespace ArtifactStaging

open Text

/-! ## The root of a file system -/

theorem FileSystem.isDirectory_root (fs : FileSystem) : fs.isDirectory "/" = true := by
  obtain ⟨attributes, root⟩ := FileTree.exists_of_isDirectory fs.tree.root
  refine FileSystem.isDirectory_iff.2 ⟨[], attributes, FileSystem.locate_ok_iff.2 ⟨rfl, ?_⟩⟩
  have route : FileSystem.Route.ofPath fs.here (RawText.of "/") = ⟨[], [], true⟩ := rfl
  rw [route]
  change FileSystem.follow _ _ _ _ [] [] = _
  simp only [FileSystem.follow, root]

/-! ## The directory of a destination -/

namespace PlanEntry

variable {entry : PlanEntry} {base relative : String}

/-- The names of a destination are those of its directory, and then the file name. -/
theorem names_destination (h : entry.fileName ≠ "") :
    PathText.names entry.destination = PathText.names entry.directory ++ [entry.fileName] := by
  unfold fileName lastSegment at h ⊢
  unfold directory
  cases hcut : cutLast? '/' entry.destination.toList with
  | none =>
      rw [hcut] at h
      exact PathText.names_eq_singleton h (cutLast?_eq_none.1 hcut)
  | some cut =>
      obtain ⟨before, after⟩ := cut
      rw [hcut] at h
      obtain ⟨hpath, hafter⟩ := cutLast?_eq_some hcut
      have hnames := PathText.names_ofList_append before after
      have hlast : PathText.names (String.ofList after) = [String.ofList after] :=
        PathText.names_eq_singleton h (by simpa using hafter)
      rwa [← hpath, String.ofList_toList, hlast] at hnames

/-- The names of the directory are those of the destination without the last. -/
theorem names_directory (h : entry.fileName ≠ "") :
    PathText.names entry.directory = (PathText.names entry.destination).dropLast := by
  rw [names_destination h, List.dropLast_concat]

/-- What was joined ends in a name. -/
theorem fileName_ne_empty (h : entry.destination = joinRelative base relative)
    (inhabited : PathText.names base ++ PathText.names relative ≠ []) : entry.fileName ≠ "" := by
  intro hempty
  unfold fileName lastSegment at hempty
  split at hempty
  · next before after hcut =>
    have hpath := (cutLast?_eq_some hcut).1
    rw [String.ofList_eq_empty_iff.1 hempty] at hpath
    have hlast : (joinRelative base relative).toList.getLast? ≠ some '/' := by
      rw [← trim_joinRelative]
      exact getLast?_trim
    rw [← h, hpath] at hlast
    simp at hlast
  · rw [← names_joinRelative, ← h, hempty] at inhabited
    exact inhabited PathText.names_empty

theorem names_directory_of_join (h : entry.destination = joinRelative base relative)
    (inhabited : PathText.names relative ≠ []) :
    PathText.names entry.directory =
      PathText.names base ++ (PathText.names relative).dropLast := by
  rw [names_directory (fileName_ne_empty h (by simp [inhabited])), h, names_joinRelative,
    List.dropLast_append_of_ne_nil inhabited]

end PlanEntry

/-! ## Where the files of a plan go -/

namespace Plan

open PathText

variable {root logicalRoot : String} {disk : Disk} {input : Location} {entry : PlanEntry}

/-- The last component of an input takes back one step at most. -/
theorem leads_lastComponent? (path : String) (descends : Descends (names logicalRoot)) :
    ∃ beneath, Leads (names logicalRoot ++ (lastComponent? path).toList) beneath := by
  obtain ⟨_, down, inhabited⟩ := descends
  cases lastComponent? path with
  | none => exact ⟨_, down.append .nil⟩
  | some name =>
      by_cases hdot : name = "."
      · rw [hdot]
        exact ⟨_, down.append leads_dot⟩
      by_cases hup : name = ".."
      · rw [hup]
        exact ⟨_, down.up inhabited⟩
      · exact ⟨_, down.append (leads_singleton ⟨hdot, hup⟩)⟩

/-- The last component of a path and names behind it. -/
theorem names_join_lastComponent? (path : String) {shipped : List String}
    (proper : ∀ name ∈ shipped, name ≠ "" ∧ '/' ∉ name.toList) :
    names (Text.join "/" ((lastComponent? path).toList ++ shipped)) =
      (lastComponent? path).toList ++ shipped := by
  refine names_join fun name hname => ?_
  rcases List.mem_append.1 hname with hlast | hshipped
  · exact mem_names (mem_names_of_lastComponent? (Option.mem_toList.1 hlast))
  · exact proper name hshipped

/-- A file found in a local directory goes beneath the directory of the resources, or beside the
last step towards it. -/
theorem leads_directory_of_shipping {specials : Bool} {path resolved : String} {shipped : Place}
    (wellNamed : disk.files.tree.WellNamed) (descends : Descends (names logicalRoot))
    (ships : shipped ∈ disk.files.shipping specials resolved)
    (hdestination : entry.destination = joinRelative logicalRoot
      (Text.join "/" ((lastComponent? path).toList ++ shipped.shown))) :
    ∃ beneath, Leads (names entry.directory) beneath := by
  obtain ⟨inhabited, proper⟩ := FileSystem.shown_of_mem_shipping wellNamed ships
  have hrelative := names_join_lastComponent? path fun name hname =>
    ⟨(proper name hname).1, (proper name hname).2.1⟩
  have hnames := PlanEntry.names_directory_of_join hdestination (by simp [hrelative, inhabited])
  rw [hnames, hrelative, List.dropLast_append_of_ne_nil inhabited, ← List.append_assoc]
  obtain ⟨beneath, lower⟩ := leads_lastComponent? path descends
  exact ⟨_, lower.append (leads_of_plain fun name hname =>
    (proper name (List.dropLast_subset _ hname)).2.2)⟩

/-- Any other input goes into the directory of the resources itself. -/
theorem leads_directory_single (normal : input.Normal) (hroot : input.isRoot = false)
    (descends : Descends (names logicalRoot)) :
    ∃ beneath, Leads (names (single logicalRoot input).directory) beneath := by
  obtain ⟨inhabited, whole⟩ := normal.name hroot
  have hname : names input.name = [input.name] := names_eq_singleton inhabited whole
  have hdestination : (single logicalRoot input).destination =
      joinRelative logicalRoot input.name := by rw [single]
  rw [PlanEntry.names_directory_of_join hdestination (by simp [hname]), hname]
  obtain ⟨_, down, -⟩ := descends
  exact ⟨_, down.append .nil⟩

/-- The root is a directory, so an input that is none is not the root. -/
theorem isRoot_eq_false {path : String} (hlocal : input.localPath? = some path)
    (other : ¬ disk.files.isDirectory (Disk.resolve root input) = true) :
    input.isRoot = false := by
  rw [Location.isRoot, beq_eq_false_iff_ne]
  intro heq
  have hresolve : Disk.resolve root input = "/" := by
    simp only [Disk.resolve, hlocal]
    rw [← heq, (Location.localPath?_eq_some.1 hlocal).2]
  rw [hresolve] at other
  exact other (FileSystem.isDirectory_root _)

/-- The directory that a local file of a plan goes to lies in that of the resources, or beside the
last step towards it. -/
theorem leads_directory {raw : String} (read : Location.parse? raw = some input)
    (wellNamed : disk.files.tree.WellNamed)
    (descends : Descends (names logicalRoot))
    (brings : Brings root logicalRoot disk input entry) {path : String}
    (here : entry.source.localPath? = some path) :
    ∃ beneath, Leads (names entry.directory) beneath := by
  unfold Brings at brings
  split at brings
  · obtain ⟨shipped, ships, hentry⟩ := brings
    unfold entryAt? at hentry
    split at hentry
    · obtain ⟨source, -, made⟩ := Option.map_eq_some_iff.1 hentry
      exact leads_directory_of_shipping wellNamed descends ships (by rw [← made])
    · next hlocal =>
      -- A file listed in a remote directory is remote.
      cases hentry
      have := (Location.localPath?_eq_some.1 here).1
      simp [Location.localPath?_eq_none.1 hlocal] at this
  · next other =>
    subst brings
    exact leads_directory_single (Location.normal_of_parse? read) (isRoot_eq_false here other)
      descends

end Plan

/-! ## Copies -/

namespace Uploader

open PathText

variable {uploader : Uploader} {directory fileName path : String}

/-- What is copied to a directory that names lead to lies beneath the application's directory. -/
theorem beneath_destinationOf {beneath : List String}
    (normal : uploader.applicationDirectory.Normal) (lead : Leads (names directory) beneath)
    (named : fileName? path = some fileName) :
    uploader.applicationDirectory.Beneath (uploader.destinationOf directory fileName) := by
  obtain ⟨plain, single⟩ := names_of_fileName? named
  refine ⟨_, relativize?_destinationOf normal named, ?_⟩
  rw [names_joinRelative, single]
  exact ⟨_, lead.append (leads_singleton plain), by simp⟩

end Uploader

/-! ## Stage runs -/

section

open Uploader

variable {root raw : String} {settings : Settings} {home : Location} {id other : ApplicationId}
  {destination : Location}

/-- With some settings, a bulk registration of an application under a home directory copies a file
to a destination.  The uploader was opened with these settings, the inputs were read, and the copies
are those that a rehearsal on the disk writes down. -/
def CopiesTo (root : String) (settings : Settings) (home : Location) (id : ApplicationId)
    (destination : Location) : Prop :=
  ∃ (options : StagingOptions) (roots : List Location) (disk opened : Disk) (uploader : Uploader)
    (inputs : List Location) (s : Submission (Rehearsal Disk)) (source : String)
    (overwrite deleteSource : Bool),
    settings.stagingOptions = .ok options ∧
    (open? (Disk.host root) home roots id options).outcome disk = (.ok uploader, opened) ∧
    (∀ input ∈ inputs, ∃ raw, Location.parse? raw = some input) ∧
    s.world.inner.files.tree.WellNamed ∧ s.world.faults = [] ∧ s.world.notes = [] ∧
    .copyFromLocal source destination overwrite deleteSource ∈
      ((uploader.registerMany (Rehearsal.host (Disk.host root)) inputs
        settings.resourcesDirectory settings.replication).outcome s).2.world.notes

theorem space_of_stagingOptions {options : StagingOptions}
    (h : settings.stagingOptions = .ok options) : options.space = settings.space := by
  obtain ⟨pattern, -, heq⟩ := Except.bind_ok_iff.1 h
  cases heq
  rfl

/-- If the directory for resources leads down, copies go beneath the application's directory. -/
theorem CopiesTo.beneath (h : CopiesTo root settings home id destination)
    (descends : PathText.Descends (PathText.names settings.resourcesDirectory)) :
    (applicationDirectory home settings.space id).Beneath destination := by
  obtain ⟨options, roots, disk, opened, uploader, inputs, s, source, overwrite, deleteSource,
    chosen, run, read, wellNamed, faultless, fresh, copied⟩ := h
  have hdirectory : uploader.applicationDirectory =
      applicationDirectory home settings.space id := by
    rw [← space_of_stagingOptions chosen, eq_of_open? run]
  have normal : uploader.applicationDirectory.Normal := by
    rw [hdirectory]
    exact normal_applicationDirectory home settings.space id
  let onDisk : Submission Disk := ⟨s.world.inner, s.resources, s.shipment⟩
  have matched : Submission.Matches
      (Rehearsal.Follows uploader.applicationDirectory.Beneath []) s onDisk :=
    ⟨⟨rfl, faultless, [], by simp [fresh], by simp⟩, rfl, rfl⟩
  obtain ⟨-, reached⟩ := registerMany_simulates settings.replication matched
    fun plan world planned entry hentry path fileName here named => by
      obtain ⟨input, hinput, brings⟩ := (Plan.mem_ofInputs_disk planned).1 hentry
      obtain ⟨raw, read⟩ := read input hinput
      obtain ⟨beneath, lead⟩ := Plan.leads_directory read wellNamed descends brings here
      exact beneath_destinationOf normal lead named
  obtain ⟨new, hnotes, fits⟩ := reached.worlds.noted
  rw [hnotes, List.append_nil] at copied
  rw [← hdirectory]
  exact fits _ _ _ _ copied

/-- Beneath an application's directory, the names of a path lead through its identifier. -/
theorem walk_of_beneath {space : String} (normal : home.Normal)
    (segment : Settings.isSegment space = true)
    (h : (applicationDirectory home space id).Beneath destination) (place : List String) :
    ∃ beneath, PathText.walk place (PathText.names destination.path) =
      PathText.step (PathText.walk place (PathText.names home.path)) ("." ++ space) ++
        id.text :: beneath := by
  obtain ⟨rest, hrest, beneath, lead, -⟩ := h
  refine ⟨beneath, ?_⟩
  rw [Location.names_of_relativize? hrest, names_applicationDirectory normal segment,
    PathText.walk_append, PathText.walk_append, PathText.walk_cons, PathText.walk_cons,
    PathText.walk_nil, lead, PathText.step_plain id.plain, List.append_assoc]
  rfl

/-- **Where bulk registration copies to.**  With settings that are accepted and a directory for
resources that leads down, every copy goes to a location beneath the application's directory, dots
and two dots resolved.  So two applications under one home directory and namespace never copy to one
place, whatever their settings are otherwise. -/
theorem copies_confined (root : String) (id : ApplicationId)
    (read : Location.parse? raw = some home) (accepted : settings.validate = .ok ())
    (descends : PathText.Descends (PathText.names settings.resourcesDirectory)) :
    (∀ destination, CopiesTo root settings home id destination →
      (applicationDirectory home settings.space id).Beneath destination) ∧
    ∀ (root' : String) (settings' : Settings) (other : ApplicationId),
      settings'.space = settings.space →
        PathText.Descends (PathText.names settings'.resourcesDirectory) → other ≠ id →
          ∀ destination destination', CopiesTo root settings home id destination →
            CopiesTo root' settings' home other destination' →
              ∀ place, PathText.walk place (PathText.names destination.path) ≠
                PathText.walk place (PathText.names destination'.path) := by
  have normal := Location.normal_of_parse? read
  have segment := (Settings.validate_ok_iff.1 accepted).2.2.1
  refine ⟨fun destination copied => copied.beneath descends, ?_⟩
  intro root' settings' other same descends' distinct destination destination' copied copied' place
  have below := copied.beneath descends
  have below' := copied'.beneath descends'
  rw [same] at below'
  obtain ⟨beneath, hwalk⟩ := walk_of_beneath normal segment below place
  obtain ⟨beneath', hwalk'⟩ := walk_of_beneath normal segment below' place
  rw [hwalk, hwalk']
  intro heq
  have hid := (List.cons.inj (List.append_cancel_left heq)).1
  exact distinct (ApplicationId.text_inj.1 hid.symm)

end

namespace Sample

open Uploader

/-- Settings of the small machine that are accepted, with a directory for resources. -/
def placed (resourcesDirectory : String) : Settings := { named "n" with resourcesDirectory }

/-- What an uploader is opened with under these settings. -/
def placing : StagingOptions :=
  ⟨"n", ⟨1, 0⟩, ⟨⟨"d", "q"⟩, [.literal 'd', .anyBytes], [.anyBytes, .literal 'q']⟩⟩

theorem stagingOptions_placed (resourcesDirectory : String) :
    (placed resourcesDirectory).stagingOptions = .ok placing := by
  have lead : DistBundlePattern.parseGlob (DistBundleRule.leadGlob ⟨"d", "q"⟩) =
      .ok [.literal 'd', .anyBytes] := by with_unfolding_all rfl
  have extension : DistBundlePattern.parseGlob (DistBundleRule.extensionGlob ⟨"d", "q"⟩) =
      .ok [.anyBytes, .literal 'q'] := by with_unfolding_all rfl
  have pattern : DistBundlePattern.ofRule (placed resourcesDirectory).dist =
      .ok placing.distPattern := by
    change DistBundlePattern.ofRule ⟨"d", "q"⟩ = _
    rw [DistBundlePattern.ofRule, lead, extension]
    rfl
  rw [Settings.stagingOptions, pattern]
  rfl

/-- The uploader of an application under these settings, without shared libraries. -/
def placer (id : ApplicationId) : Uploader :=
  ⟨here "h", id, applicationDirectory (here "h") "n" id, .empty, placing⟩

theorem placer_of_open? {id : ApplicationId}
    (opened : ((open? host (here "h") [] id placing).outcome disk).1.toOption.map
      Uploader.shared = some .empty) :
    ∃ after, (open? (Disk.host "r") (here "h") [] id placing).outcome disk =
      (.ok (placer id), after) := by
  obtain ⟨uploader, hopened, hshared⟩ := Option.map_eq_some_iff.1 opened
  have answered := Run.outcome_eq_of_toOption hopened
  have heq := eq_of_open? answered
  rw [hshared] at heq
  exact ⟨_, answered.trans (by rw [heq]; rfl)⟩

/-- The machine before anything was written down. -/
def rehearsal : Submission (Rehearsal Disk) := .start (.start disk [] [])

theorem wellNamed_disk : rehearsal.world.inner.files.tree.WellNamed :=
  FileTree.wellNamed_iff.2 (by decide)

/-- What is written down when an application registers the file `y/a`. -/
def notes (id : ApplicationId) (resourcesDirectory : String) : List StorageNote :=
  (((placer id).registerMany (Rehearsal.host (Disk.host "r")) [here "y/a"]
    (placed resourcesDirectory).resourcesDirectory
    (placed resourcesDirectory).replication).outcome rehearsal).2.world.notes

theorem copiesTo_of_mem_notes {id : ApplicationId} {resourcesDirectory source : String}
    {destination : Location} {overwrite deleteSource : Bool}
    (opened : ((open? host (here "h") [] id placing).outcome disk).1.toOption.map
      Uploader.shared = some .empty)
    (h : .copyFromLocal source destination overwrite deleteSource ∈
      notes id resourcesDirectory) :
    CopiesTo "r" (placed resourcesDirectory) (here "h") id destination := by
  obtain ⟨after, hopened⟩ := placer_of_open? opened
  unfold notes at h
  refine ⟨placing, [], disk, after, placer id, [here "y/a"], rehearsal, source, overwrite,
    deleteSource, stagingOptions_placed _, hopened, ?_, wellNamed_disk, rfl, rfl, h⟩
  intro input hinput
  obtain rfl := List.mem_singleton.1 hinput
  exact ⟨"y/a", by decide⟩

/-- Another application. -/
def otherId : ApplicationId := ⟨"j", by decide +kernel⟩

/-- Two applications copy a file of one name. -/
theorem copies_confined_sample :
    CopiesTo "r" (placed "l") (here "h") applicationId (here "h/.n/i/l/a") ∧
      CopiesTo "r" (placed "l") (here "h") otherId (here "h/.n/j/l/a") ∧
      (applicationDirectory (here "h") "n" applicationId).Beneath (here "h/.n/i/l/a") ∧
      ∀ place, PathText.walk place (PathText.names "h/.n/i/l/a") ≠
        PathText.walk place (PathText.names "h/.n/j/l/a") := by
  have read : Location.parse? "h" = some (here "h") := by decide +kernel
  have accepted : (placed "l").validate = .ok () := by decide +kernel
  have descends : PathText.Descends (PathText.names (placed "l").resourcesDirectory) :=
    ⟨["l"], PathText.leads_singleton (by decide), by decide⟩
  have copies : CopiesTo "r" (placed "l") (here "h") applicationId (here "h/.n/i/l/a") :=
    copiesTo_of_mem_notes (by decide +kernel)
      (show StorageNote.copyFromLocal "y/a" (here "h/.n/i/l/a") true false ∈ _ by decide +kernel)
  have copies' : CopiesTo "r" (placed "l") (here "h") otherId (here "h/.n/j/l/a") :=
    copiesTo_of_mem_notes (by decide +kernel)
      (show StorageNote.copyFromLocal "y/a" (here "h/.n/j/l/a") true false ∈ _ by decide +kernel)
  obtain ⟨confined, apart⟩ := copies_confined "r" applicationId read accepted descends
  exact ⟨copies, copies', confined _ copies,
    apart "r" (placed "l") otherId rfl descends (by decide) _ _ copies copies'⟩

/-- With two dots as the directory for resources, which is accepted, a copy goes beside the
application's directory. -/
theorem copies_escape :
    ¬ ∀ (root raw : String) (settings : Settings) (home : Location) (id : ApplicationId)
      (destination : Location), Location.parse? raw = some home → settings.validate = .ok () →
        CopiesTo root settings home id destination →
          (applicationDirectory home settings.space id).Beneath destination := by
  intro claim
  have read : Location.parse? "h" = some (here "h") := by decide +kernel
  have accepted : (placed "..").validate = .ok () := by decide +kernel
  have copies : CopiesTo "r" (placed "..") (here "h") applicationId (here "h/.n/i/../a") :=
    copiesTo_of_mem_notes (by decide +kernel)
      (show StorageNote.copyFromLocal "y/a" (here "h/.n/i/../a") true false ∈ _ by decide +kernel)
  obtain ⟨rest, hrest, beneath, lead, -⟩ := claim "r" "h" _ _ _ _ read accepted copies
  have hadded : (applicationDirectory (here "h") "n" applicationId).relativize?
      (here "h/.n/i/../a") = some "../a" := by decide +kernel
  obtain rfl := Option.some.inj (hrest.symm.trans hadded)
  -- One step down and up again there is one name, and none of it was there before.
  have hwalk : PathText.walk ["i"] (PathText.names "../a") = ["a"] := by decide +kernel
  have hhead := congrArg List.head? (hwalk.symm.trans (lead ["i"]))
  simp at hhead

end Sample

end ArtifactStaging
