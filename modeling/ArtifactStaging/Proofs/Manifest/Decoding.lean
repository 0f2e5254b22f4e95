/-
# ArtifactStaging.Proofs.Manifest.Decoding -- the JSON value of an outcome decodes to the outcome

A record decodes from the object of its fields if every field does.  So do the descriptors and
records of artifacts, a table (whose keys stand in their order) and an outcome, as long as every
location in it is settled: its text is what the value holds, and that is read again.
-/
import ArtifactStaging.Manifest.Outcome
import ArtifactStaging.Proofs.Location.Rendering
import ArtifactStaging.Proofs.Result

set_option autoImplicit false

namespace ArtifactStaging

open Json

/-! ## Values -/

theorem Location.decode_render {location : Location} (settled : location.Settled) :
    Location.decode (.str location.render) = .ok location := by
  simp [Location.decode, Decoder.textWith, Decoder.text, Decoder.textAs, Location.parse,
    settled.parse?_render, bind, Except.bind, Except.mapError]

theorem Location.settled_of_decode {value : Json} {location : Location}
    (h : Location.decode value = .ok location) : location.Settled := by
  obtain ⟨raw, -, hparse⟩ := Except.bind_ok_iff.1 h
  exact settled_of_parse (Except.mapError_ok_iff.1 (Except.mapError_ok_iff.1 hparse))

theorem ApplicationId.parse_text (id : ApplicationId) : ApplicationId.parse id.text = .ok id := by
  unfold ApplicationId.parse
  split
  · rfl
  · next fault hfault =>
    have valid := id.valid
    rw [hfault] at valid
    cases valid

theorem ApplicationId.decode_text (id : ApplicationId) :
    ApplicationId.decode (.str id.text) = .ok id := by
  simp [ApplicationId.decode, Decoder.textWith, Decoder.text, Decoder.textAs, id.parse_text, bind,
    Except.bind, Except.mapError]

theorem Visibility.decode_name (intake : Intake) (visibility : Visibility) :
    Visibility.decode intake (.str visibility.name) = .ok visibility := by
  cases visibility <;> rfl

namespace Json.Decoder

theorem word64_toNat (n : UInt64) : word64 (.int n.toNat) = .ok n := by
  have hn := n.toNat_lt
  have hrange : (0 : Int) ≤ n.toNat ∧ (n.toNat : Int) ≤ Width.most64 := by
    rw [Width.most64]
    omega
  simp only [word64, whole, if_pos hrange, bind, Except.bind, Int.toNat_natCast,
    UInt64.ofNat_toNat]

theorem signed64_toInt (n : Int64) : signed64 (.int n.toInt) = .ok n := by
  have hrange : Width.leastSigned64 ≤ n.toInt ∧ n.toInt ≤ Width.mostSigned64 := by
    have hleast := n.le_toInt
    have hmost := n.toInt_lt
    rw [Width.leastSigned64, Width.mostSigned64]
    omega
  simp only [signed64, whole, if_pos hrange, bind, Except.bind, Int64.ofInt_toInt]

section

variable {α : Type} {decode : Decoder α} {write : α → Json}

/-- A list decodes item by item. -/
theorem list_map {items : List α} (h : ∀ item ∈ items, decode (write item) = .ok item) :
    list decode (.arr (items.map write)) = .ok items :=
  Except.mapM_ok_iff.2 (List.forall₂_map_left_iff.2 (List.forall₂_same.2 h))

/-- A table decodes member by member. -/
theorem table_map {entries : List (String × α)}
    (h : ∀ entry ∈ entries, decode (write entry.2) = .ok entry.2) :
    table decode (.obj (entries.map fun (key, item) => (key, write item))) = .ok entries := by
  refine Except.mapM_ok_iff.2 (List.forall₂_map_left_iff.2 (List.forall₂_same.2 ?_))
  rintro ⟨key, item⟩ hentry
  simp [h _ hentry, bind, Except.bind]

end

theorem list_texts (items : List String) : list text (StagingOutcome.texts items) = .ok items :=
  list_map fun _ _ => rfl

end Json.Decoder

/-! ## Records -/

namespace Json.Record

variable {record : Json.Record} {fields : List Field} {members : Members} {seen : List String}
  {name : String} {value : Json}

theorem check_required {α : Type} {decode : Decoder α} {item : α} (name : String)
    (h : decode value = .ok item) : (Field.required name decode).check value = .ok () := by
  simp [Field.required, h, Except.map]

theorem find?_of_distinct (distinct : (fields.map Field.name).Nodup) {field : Field}
    (h : field ∈ fields) : fields.find? (·.name == field.name) = some field := by
  induction fields with
  | nil => cases h
  | cons first fields ih =>
      rw [List.map_cons, List.nodup_cons] at distinct
      rcases List.mem_cons.1 h with rfl | hmem
      · simp
      · have hne : first.name ≠ field.name := fun heq =>
          distinct.1 (heq ▸ List.mem_map_of_mem hmem)
        rw [List.find?_cons_of_neg (by simpa using hne), ih distinct.2 hmem]

/-- Members that are fields, each met once and right, pass. -/
theorem checkMembers_ok (distinct : (fields.map Field.name).Nodup)
    (known : ∀ member ∈ members, ∃ field ∈ fields, field.name = member.1 ∧
      field.check member.2 = .ok ())
    (once : (members.map Prod.fst).Nodup) (fresh : ∀ member ∈ members, member.1 ∉ seen) :
    checkMembers fields seen members = .ok () := by
  induction members generalizing seen with
  | nil => rfl
  | cons member members ih =>
      obtain ⟨name, value⟩ := member
      obtain ⟨⟨field, hfield, rfl, hcheck⟩, knownOthers⟩ := List.forall_mem_cons.1 known
      obtain ⟨hseen, freshOthers⟩ := List.forall_mem_cons.1 fresh
      rw [List.map_cons, List.nodup_cons] at once
      have hothers : checkMembers fields (field.name :: seen) members = .ok () := by
        refine ih knownOthers once.2 fun member hmember => ?_
        rw [List.mem_cons, not_or]
        refine ⟨fun heq => once.1 ?_, freshOthers member hmember⟩
        exact List.mem_map.2 ⟨member, hmember, heq⟩
      have hcontains : seen.contains field.name = false := by simpa using hseen
      simp only [checkMembers, find?_of_distinct distinct hfield, hcontains, hcheck, hothers, bind,
        Except.bind, if_false, Bool.false_eq_true]

theorem isSome_lookup (h : name ∈ members.map Prod.fst) : (lookup name members).isSome = true := by
  induction members with
  | nil => cases h
  | cons member members ih =>
      obtain ⟨other, value⟩ := member
      rw [lookup]
      split
      · rfl
      · next hne =>
        rcases List.mem_cons.1 h with rfl | hmem
        · exact absurd rfl hne
        · exact ih hmem

/-- Members that are the fields in their order, each of them right. -/
def Fits (fields : List Field) (members : Members) : Prop :=
  List.Forall₂ (fun field member => field.name = member.1 ∧ field.check member.2 = .ok ()) fields
    members

namespace Fits

theorem nil : Fits [] [] := List.Forall₂.nil

theorem required {α : Type} {decode : Decoder α} {item : α} (name : String)
    (h : decode value = .ok item) (others : Fits fields members) :
    Fits (.required name decode :: fields) ((name, value) :: members) :=
  List.Forall₂.cons ⟨rfl, check_required name h⟩ others

theorem names_eq (fits : Fits fields members) :
    members.map Prod.fst = fields.map Field.name := by
  induction fits with
  | nil => rfl
  | cons first others ih => rw [List.map_cons, List.map_cons, ih, first.1]

theorem known (fits : Fits fields members) :
    ∀ member ∈ members, ∃ field ∈ fields, field.name = member.1 ∧
      field.check member.2 = .ok () := by
  induction fits with
  | nil => simp
  | cons first others ih =>
      rintro member hmember
      rcases List.mem_cons.1 hmember with rfl | hmember
      · exact ⟨_, List.mem_cons_self, first⟩
      · obtain ⟨field, hfield, right⟩ := ih member hmember
        exact ⟨field, List.mem_cons_of_mem _ hfield, right⟩

/-- An object of all fields, each right, is read as it is. -/
theorem read_obj (fits : Fits record.fields members)
    (distinct : (record.fields.map Field.name).Nodup) :
    record.read (.obj members) = .ok members := by
  have hmembers : checkMembers record.fields [] members = .ok () :=
    checkMembers_ok distinct fits.known (fits.names_eq ▸ distinct) fun _ _ => List.not_mem_nil
  have hpresence : checkPresence record.fields members = .ok () := by
    have habsent : record.fields.find? (fun field =>
        !field.absentInObject && (lookup field.name members).isNone) = none := by
      rw [List.find?_eq_none]
      intro field hfield
      have hsome := isSome_lookup (fits.names_eq ▸ List.mem_map_of_mem hfield)
      simp [Option.isSome_iff_ne_none.1 hsome]
    rw [checkPresence, habsent]
  rw [read, hmembers, hpresence]
  rfl

end Fits

end Json.Record

theorem LocalResource.decode_toJson (intake : Intake) {resource : LocalResource}
    (settled : resource.path.Settled) :
    LocalResource.decode intake resource.toJson = .ok resource := by
  have hpath := Location.decode_render settled
  have hsize := Decoder.word64_toNat resource.size
  have htime := Decoder.signed64_toInt resource.modificationTime
  have hvisibility := Visibility.decode_name intake resource.visibility
  have hread : (LocalResource.record intake).read resource.toJson = .ok _ :=
    Record.Fits.read_obj (.required _ hpath (.required _ hsize (.required _ htime
      (.required _ hvisibility .nil)))) (by simp [LocalResource.record, Field.required])
  rw [LocalResource.decode, hread]
  simp [Record.get, lookup, hpath, hsize, htime, hvisibility, bind, Except.bind]

theorem ArtifactDescriptor.decode_toJson (intake : Intake) {descriptor : ArtifactDescriptor}
    (settled : descriptor.path.Settled) :
    ArtifactDescriptor.decode intake descriptor.toJson = .ok descriptor := by
  have hkey : Decoder.text (.str descriptor.key) = .ok descriptor.key := rfl
  have hpath := Location.decode_render settled
  have hsize := Decoder.word64_toNat descriptor.size
  have htime := Decoder.signed64_toInt descriptor.modificationTime
  have hvisibility := Visibility.decode_name intake descriptor.visibility
  have hread : (ArtifactDescriptor.record intake).read descriptor.toJson = .ok _ :=
    Record.Fits.read_obj (.required _ hkey (.required _ hpath (.required _ hsize (.required _ htime
      (.required _ hvisibility .nil))))) (by simp [ArtifactDescriptor.record, Field.required])
  rw [ArtifactDescriptor.decode, hread]
  simp [Record.get, lookup, hkey, hpath, hsize, htime, hvisibility, bind, Except.bind]

/-! ## Tables -/

namespace Dictionary

variable {κ ν : Type} [LT κ] [DecidableLT κ] [DecidableEq κ] [KeyOrder κ]

/-- What comes after all that is there is put at the end. -/
theorem putEntry_last {key : κ} {value : ν} {entries : List (κ × ν)}
    (h : ∀ entry ∈ entries, entry.1 < key) :
    putEntry key value entries = entries ++ [(key, value)] := by
  induction entries with
  | nil => rfl
  | cons entry entries ih =>
      obtain ⟨other, old⟩ := entry
      obtain ⟨hother, hentries⟩ := List.forall_mem_cons.1 h
      have hne : other ≠ key := by
        rintro rfl
        exact KeyOrder.irrefl other hother
      rw [putEntry, if_neg hne, if_pos hother, ih hentries]
      rfl

end Dictionary

namespace ResourceTable

theorem eq_of_entries {table other : ResourceTable} (h : table.entries = other.entries) :
    table = other := by
  obtain ⟨⟨entries, ascending⟩⟩ := table
  obtain ⟨⟨others, othersAscending⟩⟩ := other
  obtain rfl : entries = others := h
  rfl

/-- Inserted in ascending order, entries are put one after the other. -/
theorem entries_foldl_insert {table : ResourceTable} {entries : List (String × LocalResource)}
    (ascending : (table.entries ++ entries).Pairwise fun a b => a.1 < b.1) :
    (entries.foldl (fun table (key, resource) => table.insert key resource) table).entries =
      table.entries ++ entries := by
  induction entries generalizing table with
  | nil => simp
  | cons entry entries ih =>
      obtain ⟨key, resource⟩ := entry
      have hlast : ∀ other ∈ table.entries, other.1 < key := fun other hother =>
        (List.pairwise_append.1 ascending).2.2 other hother _ List.mem_cons_self
      have hinsert : (table.insert key resource).entries = table.entries ++ [(key, resource)] :=
        Dictionary.putEntry_last hlast
      rw [List.foldl_cons, ih (by rw [hinsert, List.append_assoc]; exact ascending), hinsert,
        List.append_assoc]
      rfl

/-- A table is the table of its entries. -/
theorem ofList_entries (table : ResourceTable) : ofList table.entries = table :=
  have ascending : (empty.entries ++ table.entries).Pairwise fun a b => a.1 < b.1 :=
    table.resources.ascending
  eq_of_entries (entries_foldl_insert ascending)

/-- A table of settled locations decodes to itself. -/
theorem decode_toJson (intake : Intake) {table : ResourceTable}
    (settled : ∀ entry ∈ table.entries, entry.2.path.Settled) :
    decode intake table.toJson = .ok table := by
  have htable := Decoder.table_map fun entry hentry =>
    LocalResource.decode_toJson intake (settled entry hentry)
  rw [decode, toJson, htable]
  simp [bind, Except.bind, ofList_entries]

end ResourceTable

/-! ## Outcomes -/

namespace StagingOutcome

/-- An outcome whose locations are all settled. -/
structure Settled (outcome : StagingOutcome) : Prop where
  applicationDirectory : outcome.applicationDirectory.Settled
  shipped : ∀ descriptor ∈ outcome.shipped, descriptor.path.Settled
  remotePaths : ∀ path ∈ outcome.remotePaths, path.Settled
  resources : ∀ entry ∈ outcome.resources.entries, entry.2.path.Settled

/-- **A settled outcome decodes from its members.** -/
theorem decode_members (intake : Intake) {outcome : StagingOutcome} (settled : outcome.Settled) :
    decode intake (.obj outcome.members) = .ok outcome := by
  have hid := ApplicationId.decode_text outcome.applicationId
  have hdirectory := Location.decode_render settled.applicationDirectory
  have hprovided := Decoder.list_texts outcome.providedClasspath
  have hclasspath := Decoder.list_texts outcome.classpath
  have hshipped := Decoder.list_map fun descriptor hdescriptor =>
    ArtifactDescriptor.decode_toJson intake (settled.shipped descriptor hdescriptor)
  have hremote : Decoder.list Location.decode (texts (outcome.remotePaths.map Location.render)) =
      .ok outcome.remotePaths := by
    rw [texts, List.map_map]
    exact Decoder.list_map fun path hpath => Location.decode_render (settled.remotePaths path hpath)
  have hresources := ResourceTable.decode_toJson intake settled.resources
  have hread : (record intake).read (.obj outcome.members) = .ok _ :=
    Record.Fits.read_obj (.required _ hid (.required _ hdirectory (.required _ hprovided
      (.required _ hclasspath (.required _ hshipped (.required _ hremote
        (.required _ hresources .nil))))))) (by simp [record, Field.required])
  rw [decode, hread]
  simp [Record.get, members, lookup, hid, hdirectory, hprovided, hclasspath, hshipped, hremote,
    hresources, bind, Except.bind]

/-- The application's directory of an outcome that was decoded is settled. -/
theorem settled_of_decode {intake : Intake} {value : Json} {outcome : StagingOutcome}
    (h : decode intake value = .ok outcome) : outcome.applicationDirectory.Settled := by
  simp only [decode, Except.bind_ok_iff, Except.ok.injEq] at h
  obtain ⟨members, -, _, -, directory, hdirectory, _, -, _, -, _, -, _, -, _, -, rfl⟩ := h
  unfold Record.get at hdirectory
  split at hdirectory
  · exact Location.settled_of_decode hdirectory
  · cases hdirectory

end StagingOutcome

end ArtifactStaging
