/-
# ArtifactStaging.Proofs.Manifest.Binding -- what the digest of a manifest binds

The digest covers the canonical JSON of the outcome.  Every field of an outcome can be
told from those bytes, whatever the fields hold, with one exception: sizes and times are
written as the doubles nearest to them.  `Alike` is what is left, equality up to that
rounding, and the bytes of two outcomes are the same exactly if the outcomes are alike
(`digestedBytes_eq_iff`).  Up to two to the fifty-third nothing is rounded, and the
digest binds the outcome itself.

A manifest whose outcome was changed is refused unless the two outcomes are alike or
their bytes are a collision of the hash.
-/
import ArtifactStaging.Manifest.Basic
import ArtifactStaging.Proofs.Json.CanonicalText
import ArtifactStaging.Proofs.Location.ApplicationDirectory
import ArtifactStaging.Proofs.Manifest.Decoding
import ArtifactStaging.Proofs.Staging.Registering

set_option autoImplicit false

namespace ArtifactStaging

open Json

/-! ## Lists and tables of values -/

namespace Json

section

variable {α β : Type} {items : List α} {others : List β} {R S : α → β → Prop}

theorem forall₂_congr (h : ∀ item ∈ items, ∀ other ∈ others, R item other ↔ S item other) :
    List.Forall₂ R items others ↔ List.Forall₂ S items others := by
  rw [List.forall₂_iff_zip, List.forall₂_iff_zip]
  have pair {item : α} {other : β} (hzip : (item, other) ∈ items.zip others) :
      R item other ↔ S item other :=
    h item (List.of_mem_zip hzip).1 other (List.of_mem_zip hzip).2
  exact and_congr_right fun _ =>
    ⟨fun same _ _ hzip => (pair hzip).1 (same hzip), fun same _ _ hzip => (pair hzip).2 (same hzip)⟩

theorem forall₂_and : List.Forall₂ (fun item other => R item other ∧ S item other) items others ↔
    List.Forall₂ R items others ∧ List.Forall₂ S items others := by
  refine ⟨fun h => ⟨h.imp fun _ _ both => both.1, h.imp fun _ _ both => both.2⟩, ?_⟩
  rintro ⟨hR, hS⟩
  induction hR with
  | nil => exact .nil
  | cons first _ ih =>
      obtain ⟨first', others'⟩ := List.forall₂_cons.1 hS
      exact .cons ⟨first, first'⟩ (ih others')

end

variable {α : Type} {write : α → Json} {R : α → α → Prop}

/-- Lists share a text if what they list does, one by one. -/
theorem sameText_list {items others : List α}
    (h : ∀ item ∈ items, ∀ other ∈ others, SameText (write item) (write other) ↔ R item other) :
    SameText (.arr (items.map write)) (.arr (others.map write)) ↔ List.Forall₂ R items others := by
  rw [sameText_arr, List.forall₂_map_left_iff, List.forall₂_map_right_iff]
  exact forall₂_congr h

theorem sameText_texts {texts others : List String} :
    SameText (StagingOutcome.texts texts) (StagingOutcome.texts others) ↔ texts = others := by
  rw [← List.forall₂_eq_eq_eq]
  exact sameText_list fun _ _ _ _ => sameText_str

/-- Tables share a text if they have the same keys with values that share theirs. -/
theorem sameText_table {entries others : List (String × α)}
    (ascending : entries.Pairwise fun a b => a.1 < b.1)
    (ascending' : others.Pairwise fun a b => a.1 < b.1)
    (h : ∀ entry ∈ entries, ∀ other ∈ others,
      SameText (write entry.2) (write other.2) ↔ R entry.2 other.2) :
    SameText (.obj (entries.map fun (key, item) => (key, write item)))
        (.obj (others.map fun (key, item) => (key, write item))) ↔
      List.Forall₂ (fun entry other => entry.1 = other.1 ∧ R entry.2 other.2) entries others := by
  have written (entries : List (String × α)) :
      (entries.map fun (key, item) => (key, write item)).map Prod.fst = entries.map Prod.fst := by
    rw [List.map_map]
    rfl
  have keys {entries : List (String × α)} (ascending : entries.Pairwise fun a b => a.1 < b.1) :
      (entries.map Prod.fst).Pairwise (· < ·) := List.pairwise_map.2 ascending
  have once : (entries.map Prod.fst).Nodup :=
    (keys ascending).imp ne_of_lt
  -- Given the same keys, the values stand under them in one order.
  have values (names : entries.map Prod.fst = others.map Prod.fst) :
      SameText (.obj (entries.map fun (key, item) => (key, write item)))
          (.obj (others.map fun (key, item) => (key, write item))) ↔
        List.Forall₂ (fun entry other => R entry.2 other.2) entries others := by
    rw [sameText_obj (by rw [written, written, names]) (by rwa [written]),
      List.forall₂_map_left_iff, List.forall₂_map_right_iff]
    exact forall₂_congr h
  have hkeys : List.Forall₂ (fun entry other : String × α => entry.1 = other.1) entries others ↔
      entries.map Prod.fst = others.map Prod.fst := by
    rw [← List.forall₂_eq_eq_eq, List.forall₂_map_left_iff, List.forall₂_map_right_iff]
  rw [forall₂_and, hkeys]
  constructor
  · intro same
    have hperm := names_perm_of_sameText same
    rw [written, written] at hperm
    have names : entries.map Prod.fst = others.map Prod.fst :=
      hperm.eq_of_pairwise (fun _ _ _ _ hab hba => absurd hba (String.lt_asymm hab))
        (keys ascending) (keys ascending')
    exact ⟨names, (values names).1 same⟩
  · rintro ⟨names, same⟩
    exact (values names).2 same

end Json

/-! ## Equality up to rounding -/

/-- The records are the same but for the size and the time, which have one nearest double. -/
structure LocalResource.Alike (resource other : LocalResource) : Prop where
  path : resource.path = other.path
  size : Binary64.ofInt resource.size.toNat = Binary64.ofInt other.size.toNat
  modificationTime :
    Binary64.ofInt resource.modificationTime.toInt = Binary64.ofInt other.modificationTime.toInt
  visibility : resource.visibility = other.visibility

/-- The descriptors have one key, and their records are alike. -/
structure ArtifactDescriptor.Alike (descriptor other : ArtifactDescriptor) : Prop where
  key : descriptor.key = other.key
  record : descriptor.toLocalResource.Alike other.toLocalResource

/-- The tables have the same keys, with records that are alike. -/
def ResourceTable.Alike (table other : ResourceTable) : Prop :=
  List.Forall₂ (fun entry other => entry.1 = other.1 ∧ LocalResource.Alike entry.2 other.2)
    table.entries other.entries

/-- The outcomes are the same but for sizes and times, which have the same nearest doubles. -/
structure StagingOutcome.Alike (outcome other : StagingOutcome) : Prop where
  applicationId : outcome.applicationId = other.applicationId
  applicationDirectory : outcome.applicationDirectory = other.applicationDirectory
  providedClasspath : outcome.providedClasspath = other.providedClasspath
  classpath : outcome.classpath = other.classpath
  shipped : List.Forall₂ ArtifactDescriptor.Alike outcome.shipped other.shipped
  remotePaths : outcome.remotePaths = other.remotePaths
  resources : outcome.resources.Alike other.resources

/-- Neither the size nor the time of the record is beyond two to the fifty-third. -/
structure LocalResource.Exact (resource : LocalResource) : Prop where
  size : resource.size.toNat ≤ 2 ^ 53
  modificationTime : resource.modificationTime.toInt.natAbs ≤ 2 ^ 53

/-- No size and no time in the outcome is beyond two to the fifty-third. -/
structure StagingOutcome.Exact (outcome : StagingOutcome) : Prop where
  shipped : ∀ descriptor ∈ outcome.shipped, descriptor.toLocalResource.Exact
  resources : ∀ entry ∈ outcome.resources.entries, entry.2.Exact

namespace LocalResource

variable {resource other : LocalResource}

theorem alike_iff_eq (small : resource.Exact) (small' : other.Exact) :
    resource.Alike other ↔ resource = other := by
  refine ⟨fun alike => ?_, fun h => h ▸ ⟨rfl, rfl, rfl, rfl⟩⟩
  have hsize := (Binary64.ofInt_inj (a := resource.size.toNat) (b := other.size.toNat)
    small.size small'.size).1 alike.size
  have htime :=
    (Binary64.ofInt_inj small.modificationTime small'.modificationTime).1 alike.modificationTime
  have hsize' : resource.size = other.size := UInt64.toNat.inj (by exact_mod_cast hsize)
  have htime' : resource.modificationTime = other.modificationTime := Int64.toInt.inj htime
  cases resource
  cases other
  exact congr (congr (congr (congrArg mk alike.path) hsize') htime') alike.visibility

theorem sameText_toJson (settled : resource.path.Settled) (settled' : other.path.Settled) :
    SameText resource.toJson other.toJson ↔ resource.Alike other := by
  have hnames (visibility visibility' : Visibility) :
      visibility.name = visibility'.name ↔ visibility = visibility' := by
    cases visibility <;> cases visibility' <;> decide
  have hsize (n : UInt64) : (n.toNat : Int).natAbs < 2 ^ 64 := by
    have := n.toNat_lt
    omega
  have htime (n : Int64) : n.toInt.natAbs < 2 ^ 64 := by
    have hleast := n.le_toInt
    have hmost := n.toInt_lt
    omega
  rw [toJson, toJson]
  refine (sameText_obj ?_ ?_).trans ?_
  · rfl
  · simp
  simp only [List.forall₂_cons, List.Forall₂.nil, and_true, sameText_str,
    sameText_int (hsize _) (hsize _), sameText_int (htime _) (htime _),
    settled.render_inj settled', hnames]
  exact ⟨fun ⟨path, size, time, visibility⟩ => ⟨path, size, time, visibility⟩,
    fun alike => ⟨alike.path, alike.size, alike.modificationTime, alike.visibility⟩⟩

end LocalResource

namespace ArtifactDescriptor

variable {descriptor other : ArtifactDescriptor}

theorem alike_iff_eq (small : descriptor.toLocalResource.Exact)
    (small' : other.toLocalResource.Exact) : descriptor.Alike other ↔ descriptor = other := by
  refine ⟨fun alike => ?_, fun h => h ▸ ⟨rfl, rfl, rfl, rfl, rfl⟩⟩
  have hrecord := (LocalResource.alike_iff_eq small small').1 alike.record
  have hkey := alike.key
  cases descriptor
  cases other
  obtain ⟨rfl, rfl, rfl, rfl⟩ := LocalResource.mk.inj hrecord
  exact congrArg (mk · _ _ _ _) hkey

/-- A descriptor is its key and then the record. -/
theorem sameText_toJson (settled : descriptor.path.Settled) (settled' : other.path.Settled) :
    SameText descriptor.toJson other.toJson ↔ descriptor.Alike other := by
  have record : SameText descriptor.toLocalResource.toJson other.toLocalResource.toJson ↔
      descriptor.toLocalResource.Alike other.toLocalResource :=
    LocalResource.sameText_toJson settled settled'
  rw [LocalResource.toJson, LocalResource.toJson] at record
  rw [toJson, toJson]
  refine (sameText_obj ?_ ?_).trans (List.forall₂_cons.trans
    ((and_congr sameText_str ((sameText_obj ?_ ?_).symm.trans record)).trans ?_))
  · rfl
  · simp
  · rfl
  · simp
  · exact ⟨fun ⟨key, record⟩ => ⟨key, record⟩, fun alike => ⟨alike.key, alike.record⟩⟩

end ArtifactDescriptor

namespace ResourceTable

variable {table other : ResourceTable}

theorem alike_iff_eq (small : ∀ entry ∈ table.entries, entry.2.Exact)
    (small' : ∀ entry ∈ other.entries, entry.2.Exact) : table.Alike other ↔ table = other := by
  have hentries : table.Alike other ↔ table.entries = other.entries := by
    rw [← List.forall₂_eq_eq_eq]
    refine forall₂_congr fun entry hentry other hother => ?_
    rw [LocalResource.alike_iff_eq (small _ hentry) (small' _ hother)]
    exact Prod.ext_iff.symm
  exact hentries.trans ⟨eq_of_entries, congrArg _⟩

theorem sameText_toJson (settled : ∀ entry ∈ table.entries, entry.2.path.Settled)
    (settled' : ∀ entry ∈ other.entries, entry.2.path.Settled) :
    SameText table.toJson other.toJson ↔ table.Alike other :=
  sameText_table table.resources.ascending other.resources.ascending
    fun _ hentry _ hother =>
      LocalResource.sameText_toJson (settled _ hentry) (settled' _ hother)

end ResourceTable

namespace StagingOutcome

variable {outcome other : StagingOutcome}

theorem alike_iff_eq (small : outcome.Exact) (small' : other.Exact) :
    outcome.Alike other ↔ outcome = other := by
  have shipped : List.Forall₂ ArtifactDescriptor.Alike outcome.shipped other.shipped ↔
      outcome.shipped = other.shipped := by
    rw [← List.forall₂_eq_eq_eq]
    exact forall₂_congr fun _ hdescriptor _ hother =>
      ArtifactDescriptor.alike_iff_eq (small.shipped _ hdescriptor) (small'.shipped _ hother)
  have resources := ResourceTable.alike_iff_eq small.resources small'.resources
  constructor
  · intro alike
    have hid := alike.applicationId
    have hdirectory := alike.applicationDirectory
    have hprovided := alike.providedClasspath
    have hclasspath := alike.classpath
    have hshipped := shipped.1 alike.shipped
    have hremote := alike.remotePaths
    have hresources := resources.1 alike.resources
    cases outcome
    cases other
    congr
  · intro h
    subst h
    exact ⟨rfl, rfl, rfl, rfl, shipped.2 rfl, rfl, resources.2 rfl⟩

/-- Outcomes whose locations are settled share a text exactly if they are alike. -/
theorem sameText_toJson (settled : outcome.Settled) (settled' : other.Settled) :
    SameText outcome.toJson other.toJson ↔ outcome.Alike other := by
  have shipped : SameText (.arr (outcome.shipped.map ArtifactDescriptor.toJson))
      (.arr (other.shipped.map ArtifactDescriptor.toJson)) ↔
      List.Forall₂ ArtifactDescriptor.Alike outcome.shipped other.shipped :=
    sameText_list fun _ hdescriptor _ hother => ArtifactDescriptor.sameText_toJson
      (settled.shipped _ hdescriptor) (settled'.shipped _ hother)
  have remotePaths : SameText (texts (outcome.remotePaths.map Location.render))
      (texts (other.remotePaths.map Location.render)) ↔
      outcome.remotePaths = other.remotePaths := by
    rw [texts, texts, List.map_map, List.map_map, ← List.forall₂_eq_eq_eq]
    exact sameText_list fun _ hpath _ hother => sameText_str.trans
      ((settled.remotePaths _ hpath).render_inj (settled'.remotePaths _ hother))
  have resources := ResourceTable.sameText_toJson settled.resources settled'.resources
  rw [toJson, toJson, members, members]
  refine (sameText_obj ?_ ?_).trans ?_
  · rfl
  · simp
  simp only [List.forall₂_cons, List.Forall₂.nil, and_true, sameText_str, sameText_texts,
    ApplicationId.text_inj,
    settled.applicationDirectory.render_inj settled'.applicationDirectory, shipped, remotePaths,
    resources]
  constructor
  · rintro ⟨id, directory, provided, classpath, shipped, remote, resources⟩
    exact ⟨id, directory, provided, classpath, shipped, remote, resources⟩
  · intro alike
    exact ⟨alike.applicationId, alike.applicationDirectory, alike.providedClasspath,
      alike.classpath, alike.shipped, alike.remotePaths, alike.resources⟩

/-- **The digested bytes tell everything but the rounding.** -/
theorem digestedBytes_eq_iff (settled : outcome.Settled) (settled' : other.Settled) :
    outcome.digestedBytes = other.digestedBytes ↔ outcome.Alike other := by
  rw [digestedBytes, digestedBytes, canonicalBytes, canonicalBytes, Text.utf8Bytes_inj,
    ← sameText_toJson settled settled']
  rfl

end StagingOutcome

/-! ## Changed outcomes -/

/-- Different bytes with one hash. -/
def Sha256.Collision (bytes other : List UInt8) : Prop :=
  bytes ≠ other ∧ Sha256.hex bytes = Sha256.hex other

namespace StagingManifest

variable {outcome other : StagingOutcome}

/-- Whether a manifest whose outcome was changed is accepted is a question of the bytes. -/
theorem verify_changed (createdAt : Instant) (outcome other : StagingOutcome) :
    let changed := { ofOutcome createdAt outcome with outcome := other }
    (changed.verify = .ok () ∧ outcome.digest = other.digest) ∨
      (changed.verify = .error (.digestMismatch outcome.digest other.digest) ∧
        outcome.digest ≠ other.digest) := by
  intro changed
  by_cases h : other.digest = outcome.digest
  · exact .inl ⟨if_pos h, h.symm⟩
  · exact .inr ⟨if_neg h, Ne.symm h⟩

/-- **The digest binds the outcome up to the rounding of sizes and times.**  Outcomes whose
locations are settled have the same digested bytes exactly if they are alike; so a manifest whose
outcome was replaced is accepted only if the two are alike, or if the hash has a collision.  Where
no size and no time is beyond two to the fifty-third, every change of the outcome changes the
bytes, and is reported unless they collide. -/
theorem verify_binds (settled : outcome.Settled) (settled' : other.Settled)
    (createdAt : Instant) :
    (outcome.digestedBytes = other.digestedBytes ↔ outcome.Alike other) ∧
      ({ ofOutcome createdAt outcome with outcome := other }.verify = .ok () ↔
        outcome.Alike other ∨ Sha256.Collision outcome.digestedBytes other.digestedBytes) ∧
      (outcome.Exact → other.Exact → outcome ≠ other →
        outcome.digestedBytes ≠ other.digestedBytes ∧
          (¬ Sha256.Collision outcome.digestedBytes other.digestedBytes →
            { ofOutcome createdAt outcome with outcome := other }.verify =
              .error (.digestMismatch outcome.digest other.digest))) := by
  have hbytes := StagingOutcome.digestedBytes_eq_iff settled settled'
  have hdigest : outcome.digest = other.digest ↔
      outcome.Alike other ∨ Sha256.Collision outcome.digestedBytes other.digestedBytes := by
    rw [← hbytes]
    constructor
    · intro h
      by_cases hsame : outcome.digestedBytes = other.digestedBytes
      · exact .inl hsame
      · exact .inr ⟨hsame, h⟩
    · rintro (hsame | ⟨-, h⟩)
      · exact congrArg Sha256.hex hsame
      · exact h
  refine ⟨hbytes, ?_, fun small small' different => ?_⟩
  · rw [← hdigest]
    rcases verify_changed createdAt outcome other with ⟨accepted, h⟩ | ⟨refused, h⟩
    · exact iff_of_true accepted h
    · refine iff_of_false ?_ h
      rw [refused]
      exact nofun
  · have apart : ¬ outcome.Alike other := by
      rwa [StagingOutcome.alike_iff_eq small small']
    refine ⟨mt hbytes.1 apart, fun distinct => ?_⟩
    rcases verify_changed createdAt outcome other with ⟨-, h⟩ | ⟨refused, -⟩
    · exact absurd (hdigest.1 h) (not_or.2 ⟨apart, distinct⟩)
    · exact refused

end StagingManifest

namespace Sample

/-- An artifact in remote storage. -/
def artifact : Location := ⟨some "hh", "", "/k"⟩

theorem settled_artifact : artifact.Settled := Location.settled_iff.2 (by decide)

/-- An outcome with one resource of a size. -/
def recording (size : UInt64) : StagingOutcome where
  applicationId := applicationId
  applicationDirectory := here "h/.shipyard/i"
  providedClasspath := []
  classpath := []
  shipped := []
  remotePaths := []
  resources := ResourceTable.empty.insert "k" ⟨artifact, size, 0, .application⟩

theorem settled_recording (size : UInt64) : (recording size).Settled where
  applicationDirectory := by
    have read : Location.parse? (here "h/.shipyard/i").render = some (here "h/.shipyard/i") := by
      decide
    exact Location.settled_iff.2 read
  shipped := nofun
  remotePaths := nofun
  resources := by
    intro entry hentry
    obtain rfl := List.mem_singleton.1 hentry
    exact settled_artifact

theorem exact_recording {size : UInt64} (h : size.toNat ≤ 2 ^ 53) : (recording size).Exact where
  shipped := nofun
  resources := by
    intro entry hentry
    obtain rfl := List.mem_singleton.1 hentry
    have htime : (0 : Int64).toInt.natAbs ≤ 2 ^ 53 := by decide
    exact ⟨h, htime⟩

theorem recording_inj {size other : UInt64} (h : recording size = recording other) :
    size = other := by
  have hentries := congrArg (fun outcome => outcome.resources.entries) h
  exact (LocalResource.mk.inj (Prod.mk.inj (List.cons.inj hentries).1).2).2.1

/-- A size that was changed from one to two is noticed. -/
theorem verify_binds_sample :
    (recording 1).Exact ∧ (recording 2).Exact ∧ recording 1 ≠ recording 2 ∧
      (recording 1).digestedBytes ≠ (recording 2).digestedBytes := by
  have small₁ : (recording 1).Exact := exact_recording (by decide)
  have small₂ : (recording 2).Exact := exact_recording (by decide)
  have different : recording 1 ≠ recording 2 := fun h => absurd (recording_inj h) (by decide)
  obtain ⟨-, -, detected⟩ :=
    StagingManifest.verify_binds (settled_recording 1) (settled_recording 2) ⟨0, 0⟩
  exact ⟨small₁, small₂, different, (detected small₁ small₂ different).1⟩

/-- A size that was changed from two to the fifty-third to the next number is not. -/
theorem verify_misses :
    (recording 9007199254740992).Settled ∧ (recording 9007199254740993).Settled ∧
      recording 9007199254740992 ≠ recording 9007199254740993 ∧
      (recording 9007199254740992).digestedBytes = (recording 9007199254740993).digestedBytes ∧
      { StagingManifest.ofOutcome ⟨0, 0⟩ (recording 9007199254740992) with
        outcome := recording 9007199254740993 }.verify = .ok () := by
  have different : recording 9007199254740992 ≠ recording 9007199254740993 :=
    fun h => absurd (recording_inj h) (by decide)
  have rounded : Binary64.ofInt 9007199254740992 = Binary64.ofInt 9007199254740993 := by decide
  have alike : (recording 9007199254740992).Alike (recording 9007199254740993) :=
    ⟨rfl, rfl, rfl, rfl, .nil, rfl, .cons ⟨rfl, rfl, rounded, rfl, rfl⟩ .nil⟩
  have same := (StagingOutcome.digestedBytes_eq_iff (settled_recording _) (settled_recording _)).2
    alike
  have accepted : (recording 9007199254740993).digest = (recording 9007199254740992).digest :=
    congrArg Sha256.hex same.symm
  exact ⟨settled_recording _, settled_recording _, different, same, if_pos accepted⟩

end Sample

end ArtifactStaging
