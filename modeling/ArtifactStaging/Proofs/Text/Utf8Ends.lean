/-
# ArtifactStaging.Proofs.Text.Utf8Ends -- the ends of a text are the ends of its bytes

Names are matched byte by byte, but what they are matched against is meant character
by character.  UTF-8 keeps the two in step at both ends of a text: the bytes of one
text come first among those of another exactly when its characters do
(`utf8Bytes_isPrefix_iff`), and likewise last (`utf8Bytes_isSuffix_iff`).

At the front the reason is that different characters have bytes that differ whatever
follows.  At the back it is that no byte within a character can begin one
(`encodeChar_eq_cons`), so bytes that begin like a text can only be cut off between
two characters (`exists_of_append_eq_utf8Bytes`).
-/
import ArtifactStaging.Proofs.Text.ByteOrder

set_option autoImplicit false

namespace ArtifactStaging.Text

/-- A byte that goes on with a character and begins none. -/
def Continues (byte : UInt8) : Prop := 0x80 ≤ byte.toNat ∧ byte.toNat < 0xC0

/-- Only the first byte of a character begins one. -/
theorem encodeChar_eq_cons (c : Char) :
    ∃ first others, String.utf8EncodeChar c = first :: others ∧ ¬ Continues first ∧
      ∀ byte ∈ others, Continues byte := by
  have hc : c.val.toNat < 0x110000 := by
    rcases c.valid with hc | hc
    · exact lt_trans hc (by decide)
    · exact hc.2
  simp only [String.utf8EncodeChar]
  generalize c.val.toNat = a at *
  split_ifs <;>
    refine ⟨_, _, rfl, ?_, ?_⟩ <;>
    simp (disch := omega) only [Continues, List.mem_cons, List.not_mem_nil, or_false,
      forall_eq_or_imp, forall_eq, false_imp_iff, implies_true, UInt8.toNat_ofNat',
      Nat.mod_eq_of_lt] <;>
    omega

theorem utf8Bytes_append (s t : List Char) : utf8Bytes (s ++ t) = utf8Bytes s ++ utf8Bytes t := by
  simp [utf8Bytes]

/-- The bytes of a text begin with those of another exactly when the text begins with it. -/
theorem utf8Bytes_isPrefix_iff {s t : List Char} : utf8Bytes s <+: utf8Bytes t ↔ s <+: t := by
  constructor
  · intro h
    induction s generalizing t with
    | nil => exact List.nil_prefix
    | cons c s ih =>
        obtain ⟨rest, hrest⟩ := h
        obtain ⟨first, others, hbytes, -, -⟩ := encodeChar_eq_cons c
        cases t with
        | nil => simp [utf8Bytes, hbytes] at hrest
        | cons d t =>
            rw [utf8Bytes_cons, utf8Bytes_cons, List.append_assoc] at hrest
            have hcd : c = d := by
              by_contra hne
              rcases lt_or_gt_of_ne hne with hlt | hlt
              · have hbefore := encodeChar_lt hlt (utf8Bytes s ++ rest) (utf8Bytes t)
                rw [hrest] at hbefore
                exact List.lt_irrefl _ hbefore
              · have hbefore := encodeChar_lt hlt (utf8Bytes t) (utf8Bytes s ++ rest)
                rw [hrest] at hbefore
                exact List.lt_irrefl _ hbefore
            subst hcd
            exact List.cons_prefix_cons.2 ⟨rfl, ih ⟨rest, List.append_cancel_left hrest⟩⟩
  · rintro ⟨rest, rfl⟩
    exact ⟨utf8Bytes rest, (utf8Bytes_append s rest).symm⟩

/-- Where the bytes of a text are cut in two and the second part begins with no byte from
within a character, the text itself is cut in two. -/
theorem exists_of_append_eq_utf8Bytes {front back : List UInt8} {text : List Char}
    (h : front ++ back = utf8Bytes text) (begins : ∀ byte ∈ back.head?, ¬ Continues byte) :
    ∃ before after, text = before ++ after ∧ back = utf8Bytes after := by
  induction text generalizing front with
  | nil => exact ⟨[], [], rfl, (List.append_eq_nil_iff.1 h).2⟩
  | cons c text ih =>
      have later {others : List UInt8} (hothers : others ++ back = utf8Bytes text) :
          ∃ before after, c :: text = before ++ after ∧ back = utf8Bytes after := by
        obtain ⟨before, after, rfl, hback⟩ := ih hothers
        exact ⟨c :: before, after, rfl, hback⟩
      obtain ⟨first, others, hbytes, -, continues⟩ := encodeChar_eq_cons c
      rw [utf8Bytes_cons] at h
      rcases List.append_eq_append_iff.1 h with ⟨rest, hrest, hback⟩ | ⟨rest, -, hrest⟩
      · -- The cut is within the bytes of `c`: before the first of them or behind the last,
        -- for between two of them a byte from within `c` would begin what follows.
        cases front with
        | nil => exact ⟨[], c :: text, rfl, by simpa [utf8Bytes_cons] using h⟩
        | cons byte front =>
            cases rest with
            | nil => exact later (show [] ++ back = utf8Bytes text from hback)
            | cons inner rest =>
                rw [hbytes, List.cons_append, List.cons.injEq] at hrest
                exact absurd (continues inner (by simp [hrest.2]))
                  (begins inner (by simp [hback]))
      · exact later hrest.symm

/-- The bytes of a text end with those of another exactly when the text ends with it. -/
theorem utf8Bytes_isSuffix_iff {s t : List Char} : utf8Bytes s <:+ utf8Bytes t ↔ s <:+ t := by
  constructor
  · rintro ⟨front, hfront⟩
    have begins : ∀ byte ∈ (utf8Bytes s).head?, ¬ Continues byte := by
      intro byte hbyte
      cases s with
      | nil => simp [utf8Bytes] at hbyte
      | cons c s =>
          obtain ⟨first, others, hbytes, hfirst, -⟩ := encodeChar_eq_cons c
          obtain rfl : first = byte := by simpa [utf8Bytes_cons, hbytes] using hbyte
          exact hfirst
    obtain ⟨before, after, rfl, hafter⟩ := exists_of_append_eq_utf8Bytes hfront begins
    exact ⟨before, by rw [utf8Bytes_inj.1 hafter]⟩
  · rintro ⟨before, rfl⟩
    exact ⟨utf8Bytes before, (utf8Bytes_append before s).symm⟩

end ArtifactStaging.Text
