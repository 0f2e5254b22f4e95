/-
# ArtifactStaging.Proofs.Artifact.ShipList -- the line of shipped artifacts is read back

The reader of a descriptor goes straight through the text, so its fields are followed there one
by one: a location in its text, numbers of 64 bits up to where they end, a visibility by its
name.  Written in the order of the record, they are met in any state of the draft that lacks
them, and the object is the descriptor again (`read_compact`).

What a reader accepts may be written otherwise: with blanks, with other members, in another
order, as an array of the fields.  But wherever it takes a location from, that is read, so it
is settled (`settled_of_read`), and a settled location is read from its own text.  So
encoding is undone by decoding for all descriptors whose locations were read, and these are
the ones that decoding gives (`decode_encode`).
-/
import ArtifactStaging.Artifact.ShipList
import ArtifactStaging.Proofs.Json.Reading
import ArtifactStaging.Proofs.Location.Rendering

set_option autoImplicit false

namespace ArtifactStaging

open Json Reader

namespace ArtifactDescriptor

variable {descriptor : ArtifactDescriptor} {location : Location} {draft next : Draft}
  {name : String} {text rest : List Char}

/-! ## Fields as they are written -/

theorem readLocation_quoted (settled : location.Settled) (rest : List Char) :
    readLocation (quoted location.render ++ rest) = .ok (location, rest) := by
  have htext : textField (quoted location.render ++ rest) = .ok (location.render, rest) :=
    textField_quoted .line location.render rest
  simp only [readLocation, htext, bind, Except.bind, settled.parse?_render]

theorem readSize_decimal (size : UInt64) (ends : EndsNumeral rest) :
    readSize (decimal size.toNat ++ rest) = .ok (size, rest) := by
  have hsize := size.toNat_lt
  have hmost : (size.toNat : Int) ≤ Width.most64 := by
    rw [Width.most64]
    omega
  have hwhole : wholeField 0 Width.most64 (decimal size.toNat ++ rest) =
      .ok ((size.toNat : Int), rest) :=
    wholeField_decimal .line (Int.natCast_nonneg _) hmost
      (Int.le_trans (by decide) (Int.natCast_nonneg _)) hmost ends
  simp only [readSize, hwhole, bind, Except.bind, Int.toNat_natCast, UInt64.ofNat_toNat]

theorem readTime_decimal (time : Int64) (ends : EndsNumeral rest) :
    readTime (decimal time.toInt ++ rest) = .ok (time, rest) := by
  have hleast : Width.leastSigned64 ≤ time.toInt := time.le_toInt
  have hmost : time.toInt ≤ Width.mostSigned64 := by
    have := time.toInt_lt
    rw [Width.mostSigned64]
    omega
  have hwhole : wholeField Width.leastSigned64 Width.mostSigned64 (decimal time.toInt ++ rest) =
      .ok (time.toInt, rest) :=
    wholeField_decimal .line hleast hmost hleast (Int.le_trans hmost (by decide)) ends
  simp only [readTime, hwhole, bind, Except.bind, Int64.ofInt_toInt]

theorem readVisibility_quoted (visibility : Visibility) (rest : List Char) :
    readVisibility (quoted visibility.name ++ rest) = .ok (visibility, rest) := by
  have htext : quoted visibility.name ++ rest =
      '"' :: (visibility.name.toList.flatMap escape ++ '"' :: rest) := by
    simp [quoted]
  have hchoice : Visibility.choices.lookup visibility.name = some visibility := by
    cases visibility <;> decide
  rw [htext, readVisibility, choiceField, skipBlanks_cons (by decide)]
  simp only [string_escaped, bind, Except.bind, hchoice]

/-! ## Members as they are written -/

theorem readMember_key (missing : draft.key = none) (key : String) (rest : List Char) :
    readMember "key" draft (':' :: (quoted key ++ rest)) =
      .ok ({ draft with key := some key }, rest) := by
  have htext : textField (quoted key ++ rest) = .ok (key, rest) := textField_quoted .line key rest
  simp only [readMember, missing, freshMember_none, htext, bind, Except.bind]

theorem readMember_path (missing : draft.path = none) (settled : location.Settled)
    (rest : List Char) :
    readMember "path" draft (':' :: (quoted location.render ++ rest)) =
      .ok ({ draft with path := some location }, rest) := by
  simp only [readMember, missing, freshMember_none, readLocation_quoted settled, bind, Except.bind]

theorem readMember_size (missing : draft.size = none) (size : UInt64) (ends : EndsNumeral rest) :
    readMember "size" draft (':' :: (decimal size.toNat ++ rest)) =
      .ok ({ draft with size := some size }, rest) := by
  simp only [readMember, missing, freshMember_none, readSize_decimal size ends, bind, Except.bind]

theorem readMember_time (missing : draft.modificationTime = none) (time : Int64)
    (ends : EndsNumeral rest) :
    readMember "modification_time" draft (':' :: (decimal time.toInt ++ rest)) =
      .ok ({ draft with modificationTime := some time }, rest) := by
  simp only [readMember, missing, freshMember_none, readTime_decimal time ends, bind, Except.bind]

theorem readMember_visibility (missing : draft.visibility = none) (visibility : Visibility)
    (rest : List Char) :
    readMember "visibility" draft (':' :: (quoted visibility.name ++ rest)) =
      .ok ({ draft with visibility := some visibility }, rest) := by
  simp only [readMember, missing, freshMember_none, readVisibility_quoted, bind, Except.bind]

/-- What is met in a descriptor that was written. -/
def drafted (descriptor : ArtifactDescriptor) : Draft :=
  ⟨some descriptor.key, some descriptor.path, some descriptor.size,
    some descriptor.modificationTime, some descriptor.visibility⟩

/-- The members of a descriptor. -/
def members (descriptor : ArtifactDescriptor) : Members :=
  [("key", .str descriptor.key), ("path", .str descriptor.path.render),
    ("size", .int descriptor.size.toNat),
    ("modification_time", .int descriptor.modificationTime.toInt),
    ("visibility", .str descriptor.visibility.name)]

theorem gathers_members (settled : descriptor.path.Settled) :
    Gathers readMember .line descriptor.members Draft.blank descriptor.drafted := by
  apply Gathers.cons
  · intro rest _
    exact readMember_key rfl _ rest
  apply Gathers.cons
  · intro rest _
    exact readMember_path rfl settled rest
  apply Gathers.cons
  · intro rest ends
    exact readMember_size rfl _ ends
  apply Gathers.cons
  · intro rest ends
    exact readMember_time rfl _ ends
  apply Gathers.cons
  · intro rest _
    exact readMember_visibility rfl _ rest
  exact .nil _

/-- A descriptor on one line is read as the descriptor. -/
theorem read_compact (settled : descriptor.path.Settled) (rest : List Char) :
    read (compactChars descriptor.toJson ++ rest) = .ok (descriptor, rest) := by
  obtain ⟨text, after, htext, hmembers, hclose⟩ := members_object (gathers_members settled) rest
  have hobj : compactChars descriptor.toJson ++ rest = '\x7b' :: text := by
    rw [← htext]
    exact congrArg (· ++ rest) (Layout.compactChars_obj descriptor.members)
  rw [hobj, read, skipBlanks_cons (by decide)]
  simp only [hmembers, bind, Except.bind, drafted, Draft.complete, hclose]

theorem reads_compact (settled : descriptor.path.Settled) :
    Reads .line read descriptor.toJson descriptor where
  starts := ⟨'\x7b', _, rfl, rfl, by decide⟩
  reads rest _ := read_compact settled rest

/-! ## Locations that were read -/

theorem settled_of_readLocation (h : readLocation text = .ok (location, rest)) :
    location.Settled := by
  obtain ⟨⟨raw, behind⟩, -, h⟩ := Except.bind_ok_iff.1 h
  dsimp only at h
  split at h
  · next found hparse =>
    cases h
    exact Location.settled_of_parse? hparse
  · cases h

/-- The location of a draft, if it has one, is settled. -/
def Draft.Settled (draft : Draft) : Prop := ∀ location ∈ draft.path, location.Settled

theorem Draft.settled_blank : Draft.blank.Settled := by
  intro location h
  cases h

theorem memberValue_of_freshMember {α : Type} {seen : Option α} {reader : Reader α} {value : α}
    (h : freshMember seen reader text = .ok (value, rest)) :
    ∃ behind, reader behind = .ok (value, rest) := by
  unfold freshMember at h
  split at h
  · cases h
  · obtain ⟨behind, -, h⟩ := Except.bind_ok_iff.1 h
    exact ⟨behind, h⟩

/-- A member leaves the location of a draft alone, or is read as one. -/
theorem settled_of_readMember (settled : draft.Settled)
    (h : readMember name draft text = .ok (next, rest)) : next.Settled := by
  unfold readMember at h
  split at h
  case h_2 =>
    obtain ⟨⟨location, behind⟩, hlocation, h⟩ := Except.bind_ok_iff.1 h
    cases h
    obtain ⟨behind, hread⟩ := memberValue_of_freshMember hlocation
    rintro location ⟨⟩
    exact settled_of_readLocation hread
  all_goals
    obtain ⟨_, -, h⟩ := Except.bind_ok_iff.1 h
    cases h
    exact settled

theorem settled_of_complete (settled : draft.Settled) (h : draft.complete = .ok descriptor) :
    descriptor.path.Settled := by
  unfold Draft.complete at h
  split at h
  · next key path size time visibility hkey hpath hsize htime hvisibility =>
    cases h
    exact settled path hpath
  · cases h

/-- **A descriptor that was read has a settled location**, however it was written. -/
theorem settled_of_read (h : read text = .ok (descriptor, rest)) : descriptor.path.Settled := by
  unfold read at h
  split at h
  · cases h
  · obtain ⟨⟨draft, behind⟩, hmembers, h⟩ := Except.bind_ok_iff.1 h
    obtain ⟨complete, hcomplete, h⟩ := Except.bind_ok_iff.1 h
    obtain ⟨after, -, h⟩ := Except.bind_ok_iff.1 h
    cases h
    have settled : draft.Settled :=
      members_keeps (fun _ _ _ _ _ => settled_of_readMember) Draft.settled_blank
        hmembers
    exact settled_of_complete settled hcomplete
  · obtain ⟨⟨key, _⟩, -, h⟩ := Except.bind_ok_iff.1 h
    obtain ⟨⟨path, _⟩, hpath, h⟩ := Except.bind_ok_iff.1 h
    obtain ⟨⟨size, _⟩, -, h⟩ := Except.bind_ok_iff.1 h
    obtain ⟨⟨time, _⟩, -, h⟩ := Except.bind_ok_iff.1 h
    obtain ⟨⟨visibility, _⟩, -, h⟩ := Except.bind_ok_iff.1 h
    obtain ⟨after, -, h⟩ := Except.bind_ok_iff.1 h
    cases h
    obtain ⟨field, -, hfield⟩ := Except.bind_ok_iff.1 hpath
    cases field with
    | none => cases hfield
    | some behind => exact settled_of_readLocation hfield
  · exact absurd h (not_ok_wrongShape _ _)

end ArtifactDescriptor

namespace ShipList

variable {descriptors : List ArtifactDescriptor} {text rest : List Char}

theorem read_bracket (text : List Char) :
    read ('[' :: text) = (do
      let (done, rest) ←
        elements (collect ArtifactDescriptor.read) (text.length + 1) true [] text
      let rest ← close ']' rest
      .ok (done.reverse, rest)) := by
  rw [read, skipBlanks_cons (by decide)]
  rfl

/-- The descriptors of a line are read as they are. -/
theorem read_compact (settled : ∀ descriptor ∈ descriptors, descriptor.path.Settled)
    (rest : List Char) :
    read (compactChars (.arr (descriptors.map ArtifactDescriptor.toJson)) ++ rest) =
      .ok (descriptors, rest) := by
  have reads : List.Forall₂ (Reads .line ArtifactDescriptor.read)
      (descriptors.map ArtifactDescriptor.toJson) descriptors := by
    rw [List.forall₂_map_left_iff, List.forall₂_same]
    intro descriptor hdescriptor
    exact ArtifactDescriptor.reads_compact (settled descriptor hdescriptor)
  obtain ⟨inner, after, htext, helements, hclose⟩ := elements_array reads rest
  rw [Layout.compactChars_arr, htext, read_bracket, helements]
  simp only [bind, Except.bind, hclose, List.reverse_reverse]

theorem settled_of_collect {done more : List ArtifactDescriptor}
    (settled : ∀ descriptor ∈ done, descriptor.path.Settled)
    (h : collect ArtifactDescriptor.read done text = .ok (more, rest)) :
    ∀ descriptor ∈ more, descriptor.path.Settled := by
  obtain ⟨⟨descriptor, behind⟩, hread, h⟩ := Except.bind_ok_iff.1 h
  cases h
  exact List.forall_mem_cons.2 ⟨ArtifactDescriptor.settled_of_read hread, settled⟩

/-- The descriptors that were read have settled locations. -/
theorem settled_of_read (h : read text = .ok (descriptors, rest)) :
    ∀ descriptor ∈ descriptors, descriptor.path.Settled := by
  unfold read at h
  split at h
  · cases h
  · obtain ⟨⟨done, behind⟩, helements, h⟩ := Except.bind_ok_iff.1 h
    obtain ⟨after, -, h⟩ := Except.bind_ok_iff.1 h
    cases h
    have settled : ∀ descriptor ∈ done, descriptor.path.Settled :=
      elements_keeps (fun _ _ _ _ => settled_of_collect) (List.forall_mem_nil _) helements
    simpa using settled
  · exact absurd h (not_ok_wrongShape _ _)

/-! ## The line -/

theorem decode_encode_of_settled
    (settled : ∀ descriptor ∈ descriptors, descriptor.path.Settled) :
    decode (encode descriptors) = .ok descriptors := by
  have hread := read_compact settled []
  rw [List.append_nil] at hread
  have bracket : (encode descriptors).toList.all Text.isBlank = false := by
    rw [encode, Json.compact, String.toList_ofList]
    rfl
  rw [decode, if_neg (by simp [bracket])]
  refine document_ok_iff.2 ⟨[], ?_, rfl⟩
  rwa [encode, Json.compact, String.toList_ofList]

theorem settled_of_decode {line : String} (h : decode line = .ok descriptors) :
    ∀ descriptor ∈ descriptors, descriptor.path.Settled := by
  unfold decode at h
  split at h
  · cases h
    exact List.forall_mem_nil _
  · obtain ⟨rest, hread, -⟩ := document_ok_iff.1 h
    exact settled_of_read hread

/-- **Decoding undoes encoding.**  Descriptors whose locations were read, with any keys, sizes,
times and visibilities, are read from their line, in the same order.  Whatever line was decoded,
its descriptors are read from their own line as well. -/
theorem decode_encode :
    (∀ descriptors : List ArtifactDescriptor,
      (∀ descriptor ∈ descriptors, ∃ raw, Location.parse raw = .ok descriptor.path) →
        decode (encode descriptors) = .ok descriptors) ∧
    ∀ line descriptors, decode line = .ok descriptors →
      decode (encode descriptors) = .ok descriptors := by
  constructor
  · intro descriptors parsed
    apply decode_encode_of_settled
    intro descriptor hdescriptor
    obtain ⟨raw, hraw⟩ := parsed descriptor hdescriptor
    exact Location.settled_of_parse hraw
  · intro line descriptors decoded
    exact decode_encode_of_settled (settled_of_decode decoded)

/-- A descriptor with a quote and a line break in its key, and one that was written as an array of
its fields. -/
theorem decode_encode_sample :
    decode (encode [⟨"a\"\n", ⟨some "hh", "", "c"⟩, 18446744073709551615, -9223372036854775808,
        .shared⟩]) =
      .ok [⟨"a\"\n", ⟨some "hh", "", "c"⟩, 18446744073709551615, -9223372036854775808, .shared⟩] ∧
    decode "[[\"k\",\"C:/x/\",1,-2,\"PUBLIC\"]]" =
      .ok [⟨"k", ⟨none, "", "C:/x"⟩, 1, -2, .shared⟩] ∧
    decode (encode [⟨"k", ⟨none, "", "C:/x"⟩, 1, -2, .shared⟩]) =
      .ok [⟨"k", ⟨none, "", "C:/x"⟩, 1, -2, .shared⟩] := by
  have decoded : decode "[[\"k\",\"C:/x/\",1,-2,\"PUBLIC\"]]" =
      .ok [⟨"k", ⟨none, "", "C:/x"⟩, 1, -2, .shared⟩] := by decide
  refine ⟨decode_encode.1 _ ?_, decoded, decode_encode.2 _ _ decoded⟩
  intro descriptor hdescriptor
  obtain rfl := List.mem_singleton.1 hdescriptor
  exact ⟨"hh:c", by decide⟩

end ShipList

end ArtifactStaging
