/-
# ArtifactStaging.Proofs.Text.Lossy -- what is shown of bytes that may be no text

Bytes that are text are shown as that text (`decodeLossy_utf8Bytes`).  Of all others some
are lost, but none of ASCII: such a byte goes on with no character, so it ends what has begun
and shows itself (`lossyFrom_ascii`).  Nothing else is shown as ASCII, since a character of
more than one byte lies beyond it (`Begun.Good`): a character of ASCII is shown only where its
byte stands (`mem_of_mem_lossyFrom`), and what shows nothing but ASCII is that text
(`eq_of_lossyFrom_ascii`).
-/
import ArtifactStaging.Proofs.Text.ByteOrder
import Mathlib.Tactic.Ring

set_option autoImplicit false

namespace ArtifactStaging.Text

variable {begun : Begun} {state : Option Begun} {bytes rest : List UInt8} {n count low high : Nat}

/-! ## Byte by byte -/

theorem lossyFrom_cons (state : Option Begun) (byte : UInt8) (rest : List UInt8) :
    lossyFrom state (byte :: rest) =
      (nextByte state byte.toNat).1 ++ lossyFrom (nextByte state byte.toNat).2 rest := by
  cases state <;> rfl

theorem firstByte_ascii (h : n < 0x80) : firstByte n = ([Char.ofNat n], none) := if_pos h

theorem firstByte_begins (h : sequenceShape? n = some (count, low, high)) :
    firstByte n = ([], some ⟨count, low, high, n % power 2 (6 - count)⟩) := by
  have beyond : ¬ n < 0x80 := by
    intro less
    simp only [sequenceShape?] at h
    repeat rw [if_neg (by omega)] at h
    cases h
  rw [firstByte, if_neg beyond, h]

theorem nextByte_within (h : begun.low ≤ n) (h' : n ≤ begun.high) :
    nextByte (some begun) n =
      if begun.more = 1 then ([Char.ofNat (begun.value * 64 + (n - 0x80))], none)
      else ([], some ⟨begun.more - 1, 0x80, 0xBF, begun.value * 64 + (n - 0x80)⟩) := by
  rw [nextByte, if_pos ⟨h, h'⟩]

theorem nextByte_without (h : ¬ (begun.low ≤ n ∧ n ≤ begun.high)) :
    nextByte (some begun) n = (replacement :: (firstByte n).1, (firstByte n).2) := by
  rw [nextByte, if_neg h]

/-! ## Text is shown as it is -/

theorem sequenceShape?_two (h : 0xC2 ≤ n) (h' : n ≤ 0xDF) :
    sequenceShape? n = some (1, 0x80, 0xBF) := if_pos ⟨h, h'⟩

theorem sequenceShape?_three (h : 0xE0 ≤ n) (h' : n ≤ 0xEF) :
    sequenceShape? n =
      some (2, if n = 0xE0 then 0xA0 else 0x80, if n = 0xED then 0x9F else 0xBF) := by
  rw [sequenceShape?, if_neg (by omega)]
  split
  · rw [if_neg (by omega)]
  · split
    · rfl
    · rw [if_pos (by omega)]

theorem sequenceShape?_four (h : 0xF0 ≤ n) (h' : n ≤ 0xF4) :
    sequenceShape? n =
      some (3, if n = 0xF0 then 0x90 else 0x80, if n = 0xF4 then 0x8F else 0xBF) := by
  rw [sequenceShape?, if_neg (by omega), if_neg (by omega), if_neg (by omega), if_neg (by omega)]
  split
  · rw [if_neg (by omega)]
  · split
    · rw [if_neg (by omega)]
    · rw [if_pos (by omega), if_pos (by omega)]

theorem toNat_byte (h : n < 256) : (UInt8.ofNat n).toNat = n := by
  rw [UInt8.toNat_ofNat', Nat.mod_eq_of_lt h]

/-- A first byte begins a character. -/
theorem lossyFrom_first (hn : n < 256) (h : sequenceShape? n = some (count, low, high)) :
    lossyFrom none (UInt8.ofNat n :: rest) =
      lossyFrom (some ⟨count, low, high, n % power 2 (6 - count)⟩) rest := by
  rw [lossyFrom_cons, toNat_byte hn, nextByte, firstByte_begins h, List.nil_append]

/-- A byte in the middle of a character goes on with it. -/
theorem lossyFrom_middle {more value : Nat} (hn : n < 256) (h : low ≤ n) (h' : n ≤ high) :
    lossyFrom (some ⟨more + 2, low, high, value⟩) (UInt8.ofNat n :: rest) =
      lossyFrom (some ⟨more + 1, 0x80, 0xBF, value * 64 + (n - 0x80)⟩) rest := by
  rw [lossyFrom_cons, toNat_byte hn, nextByte_within h h', if_neg (by simp)]
  rfl

/-- The last byte of a character shows it. -/
theorem lossyFrom_last {value : Nat} {c : Char} (hn : n < 256) (h : low ≤ n) (h' : n ≤ high)
    (hc : value * 64 + (n - 0x80) = c.toNat) :
    lossyFrom (some ⟨1, low, high, value⟩) (UInt8.ofNat n :: rest) = c :: lossyFrom none rest := by
  rw [lossyFrom_cons, toNat_byte hn, nextByte_within h h', if_pos rfl, hc, Char.ofNat_toNat]
  rfl

/-- The bytes of a character show that character. -/
theorem lossyFrom_encodeChar (c : Char) (rest : List UInt8) :
    lossyFrom none (String.utf8EncodeChar c ++ rest) = c :: lossyFrom none rest := by
  have hc : c.val.toNat < 0xD800 ∨ 0xE000 ≤ c.val.toNat ∧ c.val.toNat < 0x110000 := by
    rcases c.valid with hc | hc
    · exact .inl hc
    · exact .inr ⟨hc.1, hc.2⟩
  have back : c.toNat = c.val.toNat := rfl
  simp only [String.utf8EncodeChar]
  generalize c.val.toNat = a at *
  split_ifs
  · have hbyte : (UInt8.ofNat a).toNat < 0x80 := by rw [toNat_byte (by omega)]; omega
    rw [List.singleton_append, lossyFrom_cons, nextByte, firstByte_ascii hbyte,
      toNat_byte (by omega), ← back, Char.ofNat_toNat]
    rfl
  · have shape := sequenceShape?_two (n := a / 64 % 32 + 192) (by omega) (by omega)
    simp only [List.cons_append, List.nil_append]
    rw [lossyFrom_first (by omega) shape, lossyFrom_last (by omega) (by omega) (by omega)]
    have bits : power 2 (6 - 1) = 32 := rfl
    rw [bits, back]
    omega
  · have shape := sequenceShape?_three (n := a / 4096 % 16 + 224) (by omega) (by omega)
    simp only [List.cons_append, List.nil_append]
    -- The limits of the second byte depend on the first.
    rw [lossyFrom_first (by omega) shape,
      lossyFrom_middle (by omega) (by split_ifs <;> omega) (by split_ifs <;> omega),
      lossyFrom_last (by omega) (by omega) (by omega)]
    have bits : power 2 (6 - 2) = 16 := rfl
    rw [bits, back]
    omega
  · have shape := sequenceShape?_four (n := a / 262144 % 8 + 240) (by omega) (by omega)
    simp only [List.cons_append, List.nil_append]
    rw [lossyFrom_first (by omega) shape,
      lossyFrom_middle (by omega) (by split_ifs <;> omega) (by split_ifs <;> omega),
      lossyFrom_middle (by omega) (by omega) (by omega),
      lossyFrom_last (by omega) (by omega) (by omega)]
    have bits : power 2 (6 - 3) = 8 := rfl
    rw [bits, back]
    omega

theorem lossyFrom_utf8Bytes_append (text : List Char) (rest : List UInt8) :
    lossyFrom none (utf8Bytes text ++ rest) = text ++ lossyFrom none rest := by
  induction text with
  | nil => rfl
  | cons c text ih =>
      rw [utf8Bytes_cons, List.append_assoc, lossyFrom_encodeChar, ih, List.cons_append]

/-- Text is shown as it is. -/
theorem decodeLossy_utf8Bytes (text : List Char) :
    decodeLossy (utf8Bytes text) = String.ofList text := by
  have h := lossyFrom_utf8Bytes_append text []
  rw [List.append_nil] at h
  rw [decodeLossy, h, lossyFrom, List.append_nil]

/-! ## Nothing but ASCII is shown as ASCII -/

namespace Begun

/-- The least code that the bytes still to come can make. -/
def least (begun : Begun) : Nat :=
  (begun.value * 64 + (begun.low - 0x80)) * 64 ^ (begun.more - 1)

/-- The first code beyond all that the bytes still to come can make. -/
def beyond (begun : Begun) : Nat :=
  (begun.value * 64 + (begun.high - 0x80) + 1) * 64 ^ (begun.more - 1)

/-- The character that has begun is one beyond ASCII, whatever bytes go on with it, and none
of ASCII goes on with it. -/
structure Good (begun : Begun) : Prop where
  more : 0 < begun.more
  low : 0x80 ≤ begun.low
  least : 0x80 ≤ begun.least
  valid : begun.beyond ≤ 0xD800 ∨ 0xE000 ≤ begun.least ∧ begun.beyond ≤ 0x110000

theorem good_of_firstByte (h : (firstByte n).2 = some begun) : begun.Good := by
  rw [firstByte] at h
  split at h
  · cases h
  split at h
  · cases h
  next count low high shape =>
    cases h
    simp only [sequenceShape?] at shape
    split_ifs at shape <;> cases shape <;> constructor <;>
      simp only [Begun.least, Begun.beyond, power] <;> norm_num <;> omega

/-- What one more byte makes of a character that has begun. -/
theorem Good.goesOn (h : begun.Good) (hlow : begun.low ≤ n) (hhigh : n ≤ begun.high)
    (hmore : begun.more ≠ 1) :
    (⟨begun.more - 1, 0x80, 0xBF, begun.value * 64 + (n - 0x80)⟩ : Begun).Good := by
  have := h.more
  have hpower : 64 ^ (begun.more - 1) = 64 * 64 ^ (begun.more - 1 - 1) := by
    rw [← pow_succ', Nat.sub_add_cancel (by omega)]
  have hleast : begun.least ≤
      (⟨begun.more - 1, 0x80, 0xBF, begun.value * 64 + (n - 0x80)⟩ : Begun).least := by
    simp only [Begun.least, hpower, ← mul_assoc]
    exact Nat.mul_le_mul_right _ (by omega)
  have hbeyond : (⟨begun.more - 1, 0x80, 0xBF, begun.value * 64 + (n - 0x80)⟩ : Begun).beyond ≤
      begun.beyond := by
    simp only [Begun.beyond, hpower, ← mul_assoc]
    exact Nat.mul_le_mul_right _ (by omega)
  refine ⟨by simp only; omega, le_refl _, le_trans h.least hleast, ?_⟩
  rcases h.valid with hvalid | ⟨hvalid, hvalid'⟩
  · exact .inl (le_trans hbeyond hvalid)
  · exact .inr ⟨le_trans hvalid hleast, le_trans hbeyond hvalid'⟩

/-- The character that the last byte ends. -/
theorem Good.ends (h : begun.Good) (hlow : begun.low ≤ n) (hhigh : n ≤ begun.high)
    (hmore : begun.more = 1) :
    0x80 ≤ (Char.ofNat (begun.value * 64 + (n - 0x80))).toNat := by
  obtain ⟨-, -, least, valid⟩ := h
  simp only [Begun.least, Begun.beyond, hmore, Nat.sub_self, pow_zero, mul_one] at least valid
  have hcode : (begun.value * 64 + (n - 0x80)).isValidChar := by
    rcases valid with valid | valid
    · exact .inl (by omega)
    · exact .inr ⟨by omega, by omega⟩
  have back :
      (Char.ofNat (begun.value * 64 + (n - 0x80))).toNat = begun.value * 64 + (n - 0x80) := by
    rw [Char.ofNat, dif_pos hcode]
    rfl
  rw [back]
  omega

end Begun

/-- Whatever character has begun is a good one. -/
def Sound (state : Option Begun) : Prop := ∀ begun, state = some begun → begun.Good

theorem sound_none : Sound none := fun _ h => by cases h

theorem Sound.step (h : Sound state) (n : Nat) : Sound (nextByte state n).2 := by
  intro begun hnext
  cases state with
  | none => exact Begun.good_of_firstByte hnext
  | some before =>
      by_cases within : before.low ≤ n ∧ n ≤ before.high
      · rw [nextByte_within within.1 within.2] at hnext
        split at hnext
        · cases hnext
        · next hmore =>
          cases hnext
          exact (h before rfl).goesOn within.1 within.2 hmore
      · rw [nextByte_without within] at hnext
        exact Begun.good_of_firstByte hnext

/-- A byte of ASCII ends what has begun and shows itself. -/
theorem lossyFrom_ascii (h : Sound state) (front rest : List UInt8) {byte : UInt8}
    (hbyte : byte.toNat < 0x80) :
    lossyFrom state (front ++ byte :: rest) =
      lossyFrom state front ++ Char.ofNat byte.toNat :: lossyFrom none rest := by
  induction front generalizing state with
  | nil =>
      cases state with
      | none => rw [List.nil_append, lossyFrom_cons, nextByte, firstByte_ascii hbyte]; rfl
      | some begun =>
          have low := (h begun rfl).low
          rw [List.nil_append, lossyFrom_cons, nextByte_without (by omega), firstByte_ascii hbyte]
          rfl
  | cons first front ih =>
      rw [List.cons_append, lossyFrom_cons, lossyFrom_cons, ih (h.step _), List.append_assoc]

theorem not_ascii_replacement : ¬ replacement.toNat < 0x80 := by decide

theorem ascii_of_mem_firstByte {c : Char} (hc : c ∈ (firstByte n).1) (ascii : c.toNat < 0x80) :
    n < 0x80 ∧ c = Char.ofNat n := by
  rw [firstByte] at hc
  split at hc
  · next less => exact ⟨less, List.mem_singleton.1 hc⟩
  split at hc
  · rw [List.mem_singleton.1 hc] at ascii
    exact absurd ascii not_ascii_replacement
  · cases hc

/-- What a byte settles of ASCII is itself. -/
theorem Sound.ascii_of_mem (h : Sound state) {c : Char} (hc : c ∈ (nextByte state n).1)
    (ascii : c.toNat < 0x80) : n < 0x80 ∧ c = Char.ofNat n := by
  cases state with
  | none => exact ascii_of_mem_firstByte hc ascii
  | some begun =>
      by_cases within : begun.low ≤ n ∧ n ≤ begun.high
      · rw [nextByte_within within.1 within.2] at hc
        split at hc
        · next hmore =>
          have beyond := (h begun rfl).ends within.1 within.2 hmore
          rw [← List.mem_singleton.1 hc] at beyond
          omega
        · cases hc
      · rw [nextByte_without within] at hc
        rcases List.mem_cons.1 hc with rfl | hc
        · exact absurd ascii not_ascii_replacement
        · exact ascii_of_mem_firstByte hc ascii

/-- A character of ASCII is shown only where its byte stands. -/
theorem mem_of_mem_lossyFrom (h : Sound state) {c : Char} (hc : c ∈ lossyFrom state bytes)
    (ascii : c.toNat < 0x80) : ∃ byte ∈ bytes, byte.toNat < 0x80 ∧ c = Char.ofNat byte.toNat := by
  induction bytes generalizing state with
  | nil =>
      cases state with
      | none => cases hc
      | some begun =>
          rw [List.mem_singleton.1 hc] at ascii
          exact absurd ascii not_ascii_replacement
  | cons byte bytes ih =>
      rw [lossyFrom_cons, List.mem_append] at hc
      rcases hc with hc | hc
      · exact ⟨byte, by simp, h.ascii_of_mem hc ascii⟩
      · obtain ⟨other, hother, found⟩ := ih (h.step _) hc
        exact ⟨other, by simp [hother], found⟩

theorem utf8EncodeChar_ascii {byte : UInt8} (h : byte.toNat < 0x80) :
    String.utf8EncodeChar (Char.ofNat byte.toNat) = [byte] := by
  have back : (Char.ofNat byte.toNat).val.toNat = byte.toNat := by
    rw [Char.ofNat, dif_pos (.inl (by omega))]
    rfl
  rw [String.utf8EncodeChar, back, if_pos (by omega), UInt8.ofNat_toNat]

/-- A byte after which nothing has begun has settled something. -/
theorem settled_ne_nil (h : (nextByte state n).2 = none) : (nextByte state n).1 ≠ [] := by
  have first (h : (firstByte n).2 = none) : (firstByte n).1 ≠ [] := by
    cases shape : sequenceShape? n with
    | none => rw [firstByte, shape]; split <;> exact List.cons_ne_nil _ _
    | some found => rw [firstByte_begins shape] at h; cases h
  cases state with
  | none => exact first h
  | some begun =>
      by_cases within : begun.low ≤ n ∧ n ≤ begun.high
      · rw [nextByte_within within.1 within.2] at h ⊢
        split at h
        · next hmore => simp [hmore]
        · cases h
      · rw [nextByte_without within]
        exact List.cons_ne_nil _ _

/-- What shows nothing but ASCII is that text, and no character had begun. -/
theorem eq_of_lossyFrom_ascii (h : Sound state)
    (ascii : ∀ c ∈ lossyFrom state bytes, c.toNat < 0x80) :
    state = none ∧ bytes = utf8Bytes (lossyFrom state bytes) := by
  induction bytes generalizing state with
  | nil =>
      cases state with
      | none => exact ⟨rfl, rfl⟩
      | some begun => exact absurd (ascii replacement (by simp [lossyFrom])) not_ascii_replacement
  | cons byte bytes ih =>
      rw [lossyFrom_cons] at ascii ⊢
      obtain ⟨ended, hrest⟩ := ih (h.step _) fun c hc => ascii c (List.mem_append_right _ hc)
      obtain ⟨c, hc⟩ := List.exists_mem_of_ne_nil _ (settled_ne_nil ended)
      have less := (h.ascii_of_mem hc (ascii c (List.mem_append_left _ hc))).1
      cases state with
      | none =>
          rw [nextByte, firstByte_ascii less] at hrest ⊢
          rw [List.singleton_append, utf8Bytes_cons, utf8EncodeChar_ascii less,
            List.singleton_append, ← hrest]
          exact ⟨rfl, rfl⟩
      | some begun =>
          have low := (h begun rfl).low
          rw [nextByte_without (by omega)] at ascii
          exact absurd (ascii replacement (by simp)) not_ascii_replacement

end ArtifactStaging.Text
