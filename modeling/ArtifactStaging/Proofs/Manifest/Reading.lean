/-
# ArtifactStaging.Proofs.Manifest.Reading -- a manifest's text is read as the manifest

The manifest's own members are read as they come, and the outcome's are set aside, each as the
value that it is.  What was set aside decodes to the outcome if the outcome is settled, so the
whole manifest is read back (`parse_render`), and its digest holds.
-/
import ArtifactStaging.Manifest.Basic
import ArtifactStaging.Proofs.Json.Reading
import ArtifactStaging.Proofs.Manifest.Decoding
import ArtifactStaging.Proofs.Time.Rendering

set_option autoImplicit false

namespace ArtifactStaging

open Json

/-! ## Plain values -/

theorem Json.plain_word64 (depth : Nat) (n : UInt64) : Plain depth (.int n.toNat) := by
  have hn := n.toNat_lt
  refine .int depth ?_ ?_
  · rw [Width.leastSigned64]
    omega
  · rw [Width.most64]
    omega

theorem Json.plain_signed64 (depth : Nat) (n : Int64) : Plain depth (.int n.toInt) := by
  have hleast := n.le_toInt
  have hmost := n.toInt_lt
  refine .int depth ?_ ?_
  · rw [Width.leastSigned64]
    omega
  · rw [Width.most64]
    omega

theorem LocalResource.plain_toJson (depth : Nat) (resource : LocalResource) :
    Plain (depth + 2) resource.toJson := by
  refine .obj fun member hmember => ?_
  simp only [List.mem_cons, List.not_mem_nil, or_false] at hmember
  rcases hmember with rfl | rfl | rfl | rfl
  · exact .str _ _
  · exact plain_word64 _ _
  · exact plain_signed64 _ _
  · exact .str _ _

theorem ArtifactDescriptor.plain_toJson (depth : Nat) (descriptor : ArtifactDescriptor) :
    Plain (depth + 2) descriptor.toJson := by
  refine .obj fun member hmember => ?_
  simp only [List.mem_cons, List.not_mem_nil, or_false] at hmember
  rcases hmember with rfl | rfl | rfl | rfl | rfl
  · exact .str _ _
  · exact .str _ _
  · exact plain_word64 _ _
  · exact plain_signed64 _ _
  · exact .str _ _

theorem ResourceTable.plain_toJson (depth : Nat) (table : ResourceTable) :
    Plain (depth + 3) table.toJson := by
  refine .obj fun member hmember => ?_
  obtain ⟨⟨key, resource⟩, -, rfl⟩ := List.mem_map.1 hmember
  exact resource.plain_toJson depth

namespace StagingOutcome

theorem plain_texts (depth : Nat) (items : List String) : Plain (depth + 2) (texts items) := by
  refine .arr fun item hitem => ?_
  obtain ⟨text, -, rfl⟩ := List.mem_map.1 hitem
  exact .str _ _

theorem plain_members (depth : Nat) (outcome : StagingOutcome) :
    ∀ member ∈ outcome.members, Plain (depth + 3) member.2 := by
  intro member hmember
  simp only [members, List.mem_cons, List.not_mem_nil, or_false] at hmember
  rcases hmember with rfl | rfl | rfl | rfl | rfl | rfl | rfl
  · exact .str _ _
  · exact .str _ _
  · exact plain_texts _ _
  · exact plain_texts _ _
  · refine .arr fun item hitem => ?_
    obtain ⟨descriptor, -, rfl⟩ := List.mem_map.1 hitem
    exact descriptor.plain_toJson depth
  · exact plain_texts _ _
  · exact outcome.resources.plain_toJson depth

end StagingOutcome

namespace StagingManifest

/-! ## Members -/

variable {name : String} {draft : Draft} {rest : List Char} {level : Nat}

theorem readVersion_decimal (version : UInt32) (ends : Reader.EndsNumeral rest) :
    readVersion (' ' :: (decimal version.toNat ++ rest)) = .ok (version, rest) := by
  have hversion := version.toNat_lt
  have hrange : (0 : Int) ≤ version.toNat ∧ (version.toNat : Int) ≤ 4294967295 := by omega
  have hwhole : Reader.wholeField 0 Width.most32 (' ' :: (decimal version.toNat ++ rest)) =
      .ok ((version.toNat : Int), rest) :=
    Reader.wholeField_decimal (Layout.lines 0) hrange.1 hrange.2
      (Int.le_trans (by decide) hrange.1) (Int.le_trans hrange.2 (by decide)) ends
  simp only [readVersion, hwhole, bind, Except.bind, Int.toNat_natCast, UInt32.ofNat_toNat]

theorem textField_quoted (s : String) (rest : List Char) :
    Reader.textField (' ' :: (quoted s ++ rest)) = .ok (s, rest) :=
  Reader.textField_quoted (Layout.lines 0) s rest

theorem readInstant_quoted {instant : Instant} (shown : instant.Shown) (rest : List Char) :
    readInstant (' ' :: (quoted instant.render ++ rest)) = .ok (instant, rest) := by
  simp only [readInstant, textField_quoted, bind, Except.bind, Instant.parse_render shown]

theorem readMember_version (missing : draft.schemaVersion = none) (version : UInt32)
    (ends : Reader.EndsNumeral rest) :
    readMember "schema_version" draft (':' :: ' ' :: (decimal version.toNat ++ rest)) =
      .ok ({ draft with schemaVersion := some version }, rest) := by
  simp only [readMember, missing, Reader.freshMember_none, readVersion_decimal version ends, bind,
    Except.bind]

theorem readMember_schema (missing : draft.schemaId = none) (schema : String)
    (rest : List Char) :
    readMember "schema_id" draft (':' :: ' ' :: (quoted schema ++ rest)) =
      .ok ({ draft with schemaId := some schema }, rest) := by
  simp only [readMember, missing, Reader.freshMember_none, textField_quoted, bind, Except.bind]

theorem readMember_created (missing : draft.createdAt = none) {instant : Instant}
    (shown : instant.Shown) (rest : List Char) :
    readMember "created_at" draft (':' :: ' ' :: (quoted instant.render ++ rest)) =
      .ok ({ draft with createdAt := some instant }, rest) := by
  simp only [readMember, missing, Reader.freshMember_none, readInstant_quoted shown rest, bind,
    Except.bind]

theorem readMember_digest (missing : draft.digest = none) (digest : String) (rest : List Char) :
    readMember "manifest_sha256" draft (':' :: ' ' :: (quoted digest ++ rest)) =
      .ok ({ draft with digest := some digest }, rest) := by
  simp only [readMember, missing, Reader.freshMember_none, textField_quoted, bind, Except.bind]

/-- The members that a manifest has of its own. -/
def ownNames : List String := ["schema_version", "schema_id", "created_at", "manifest_sha256"]

theorem readMember_other (h : name ∉ ownNames) (draft : Draft) (text : List Char) :
    readMember name draft text = (do
      let (value, rest) ← Reader.memberValue (Reader.value .kept (Reader.depthBound - 1)) text
      .ok ({ draft with others := (name, value) :: draft.others }, rest)) := by
  unfold readMember
  split <;> first | rfl | exact absurd (by decide) h

/-- Other members are set aside as they are. -/
theorem gathers_others {written : Members} (others : ∀ member ∈ written, member.1 ∉ ownNames)
    (plain : ∀ member ∈ written, Plain (Reader.depthBound - 1) member.2) (draft : Draft) :
    Reader.Gathers readMember (Layout.lines level) written draft
      { draft with others := written.reverse ++ draft.others } := by
  induction written generalizing draft with
  | nil => exact .nil draft
  | cons member written ih =>
      obtain ⟨name, value⟩ := member
      obtain ⟨hname, others⟩ := List.forall_mem_cons.1 others
      obtain ⟨hvalue, plain⟩ := List.forall_mem_cons.1 plain
      have hrest := ih others plain { draft with others := (name, value) :: draft.others }
      rw [List.reverse_cons, List.append_assoc]
      refine .cons (fun rest ends => ?_) hrest
      have hread : Reader.value .kept (Reader.depthBound - 1)
          (' ' :: (prettyChars (level + 1) value ++ rest)) = .ok (value, rest) :=
        Reader.value_pretty hvalue ends
      simp only [readMember_other hname, Reader.memberValue, Reader.colon_mark, bind, Except.bind,
        Layout.lines, List.cons_append, List.nil_append, hread]

theorem gathers_append {σ : Type} {onMember : String → σ → Reader σ} {layout : Layout}
    {first others : Members} {s t u : σ} (gathers : Reader.Gathers onMember layout first s t)
    (more : Reader.Gathers onMember layout others t u) :
    Reader.Gathers onMember layout (first ++ others) s u := by
  induction gathers with
  | nil s => exact more
  | cons first others ih => exact .cons first (ih more)

/-- The outcome's members come after the manifest's first three, and none has a name of those. -/
theorem notMem_ownNames (outcome : StagingOutcome) :
    ∀ member ∈ outcome.members, member.1 ∉ ownNames := by
  intro member hmember
  simp only [StagingOutcome.members, List.mem_cons, List.not_mem_nil, or_false] at hmember
  rcases hmember with rfl | rfl | rfl | rfl | rfl | rfl | rfl <;> simp [ownNames]

/-! ## The text -/

variable {manifest : StagingManifest}

/-- What is met in a manifest that was written. -/
def drafted (manifest : StagingManifest) : Draft :=
  ⟨some manifest.schemaVersion, some manifest.schemaId, some manifest.createdAt,
    some manifest.digest, manifest.outcome.members.reverse⟩

/-- The members of a manifest. -/
def members (manifest : StagingManifest) : Members :=
  ("schema_version", .int manifest.schemaVersion.toNat) ::
    ("schema_id", .str manifest.schemaId) ::
    ("created_at", .str manifest.createdAt.render) ::
    (manifest.outcome.members ++ [("manifest_sha256", .str manifest.digest)])

theorem gathers_members (shown : manifest.createdAt.Shown) :
    Reader.Gathers readMember (Layout.lines level) manifest.members Draft.blank
      manifest.drafted := by
  have others : Reader.Gathers readMember (Layout.lines level) manifest.outcome.members
      ⟨some manifest.schemaVersion, some manifest.schemaId, some manifest.createdAt, none, []⟩
      ⟨some manifest.schemaVersion, some manifest.schemaId, some manifest.createdAt, none,
        manifest.outcome.members.reverse ++ []⟩ :=
    gathers_others (notMem_ownNames manifest.outcome) (manifest.outcome.plain_members 124) _
  rw [List.append_nil] at others
  refine .cons (fun rest ends => readMember_version rfl _ ends)
    (.cons (fun rest _ => readMember_schema rfl _ rest)
      (.cons (fun rest _ => readMember_created rfl shown rest) (gathers_append others ?_)))
  exact .cons (fun rest _ => readMember_digest rfl _ rest) (.nil _)

theorem complete_drafted (settled : manifest.outcome.Settled) :
    manifest.drafted.complete = .ok manifest := by
  simp only [Draft.complete, drafted, List.reverse_reverse,
    StagingOutcome.decode_members .setAside settled]

theorem read_pretty (shown : manifest.createdAt.Shown) (settled : manifest.outcome.Settled) :
    read (manifest.toJson.prettyChars 0) = .ok (manifest, []) := by
  obtain ⟨text, after, htext, hmembers, hclose⟩ :=
    Reader.members_object (gathers_members shown) []
  have hobj : prettyChars 0 manifest.toJson = '\x7b' :: text := by
    rw [← htext, List.append_nil]
    exact Layout.prettyChars_obj 0 manifest.members
  rw [hobj, read, Reader.skipBlanks_cons (by decide)]
  simp only [hmembers, bind, Except.bind, complete_drafted settled, hclose]

/-- **A manifest's text is read as the manifest** if its outcome is settled. -/
theorem parse_render (shown : manifest.createdAt.Shown) (settled : manifest.outcome.Settled) :
    parse manifest.render = .ok manifest := by
  refine Reader.document_ok_iff.2 ⟨[], ?_, rfl⟩
  rw [render, Json.pretty, String.toList_ofList]
  exact read_pretty shown settled

/-- The application's directory of a manifest that was read is settled. -/
theorem settled_of_parse {text : String} (h : parse text = .ok manifest) :
    manifest.outcome.applicationDirectory.Settled := by
  obtain ⟨rest, hread, -⟩ := Reader.document_ok_iff.1 h
  unfold read at hread
  split at hread
  · cases hread
  · obtain ⟨⟨draft, _⟩, -, hread⟩ := Except.bind_ok_iff.1 hread
    obtain ⟨complete, hcomplete, hclose⟩ := Except.bind_ok_iff.1 hread
    obtain ⟨_, -, heq⟩ := Except.bind_ok_iff.1 hclose
    obtain rfl : complete = manifest := (Prod.mk.inj (Except.ok.inj heq)).1
    unfold Draft.complete at hcomplete
    split at hcomplete
    · split at hcomplete
      · next hdecode =>
        obtain rfl := Except.ok.inj hcomplete
        exact StagingOutcome.settled_of_decode hdecode
      · cases hcomplete
    · cases hcomplete
  · exact absurd hread (Reader.not_ok_wrongShape _ _)

/-- The manifest of an outcome passes the check of its digest. -/
theorem verify_ofOutcome (createdAt : Instant) (outcome : StagingOutcome) :
    (ofOutcome createdAt outcome).verify = .ok () :=
  if_pos rfl

end StagingManifest

end ArtifactStaging
