/-
# ArtifactStaging.Proofs.Text.ByteOrder -- the order of texts is the order of their bytes

Names, keys and destinations are compared as texts, code point by code point.
UTF-8 keeps that order: `lt_iff_bytes_lt` says that one text comes before another
exactly when its bytes come before the other's.  So a set of texts has one
enumeration in the strictly ascending order of bytes, `Enumerates.unique`.

The reason is `encodeChar_lt`: of two different characters the smaller one has
bytes that already come before those of the greater one, whatever follows either.
-/
import Mathlib.Data.String.Basic
import Mathlib.Data.List.Lex
import Mathlib.Tactic.SplitIfs
import ArtifactStaging.Text.Utf8

set_option autoImplicit false

namespace ArtifactStaging.Text

/-- The bytes of the smaller character come first, whatever stands after them. -/
theorem encodeChar_lt {c d : Char} (h : c < d) (x y : List UInt8) :
    String.utf8EncodeChar c ++ x < String.utf8EncodeChar d ++ y := by
  have hlt : c.val.toNat < d.val.toNat := h
  have hd : d.val.toNat < 0x110000 := by
    rcases d.valid with hd | hd
    · exact lt_trans hd (by decide)
    · exact hd.2
  simp only [String.utf8EncodeChar]
  generalize c.val.toNat = a at *
  generalize d.val.toNat = b at *
  -- The leading bytes tell the lengths apart; between equal lengths the first digit that
  -- differs decides.
  split_ifs <;>
    simp (disch := omega) only [List.cons_append, List.nil_append, List.cons_lt_cons_iff,
      UInt8.lt_iff_toNat_lt, ← UInt8.toNat_inj, UInt8.toNat_ofNat', Nat.mod_eq_of_lt] <;>
    omega

theorem encodeChar_lt_iff {c d : Char} (hne : c ≠ d) (x y : List UInt8) :
    String.utf8EncodeChar c ++ x < String.utf8EncodeChar d ++ y ↔ c < d := by
  constructor
  · intro h
    rcases lt_or_gt_of_ne hne with hlt | hlt
    · exact hlt
    · exact absurd h (List.lt_asymm (encodeChar_lt hlt y x))
  · intro h
    exact encodeChar_lt h x y

theorem append_lt_append_iff (lead x y : List UInt8) : lead ++ x < lead ++ y ↔ x < y := by
  induction lead with
  | nil => rfl
  | cons byte lead ih => simp [List.cons_lt_cons_self, ih]

theorem utf8Bytes_cons (c : Char) (text : List Char) :
    utf8Bytes (c :: text) = String.utf8EncodeChar c ++ utf8Bytes text := by
  simp [utf8Bytes]

/-- Bytes are in the order of the characters that they encode. -/
theorem utf8Bytes_lt_iff (s t : List Char) : utf8Bytes s < utf8Bytes t ↔ s < t := by
  induction s generalizing t with
  | nil =>
      cases t with
      | nil => simp [utf8Bytes]
      | cons d t =>
          obtain ⟨byte, bytes, hbytes⟩ :=
            List.exists_cons_of_ne_nil (String.utf8EncodeChar_ne_nil (c := d))
          rw [utf8Bytes_cons, hbytes]
          simp [utf8Bytes]
  | cons c s ih =>
      cases t with
      | nil => simp [utf8Bytes]
      | cons d t =>
          rw [utf8Bytes_cons, utf8Bytes_cons, List.cons_lt_cons_iff]
          by_cases hcd : c = d
          · subst hcd
            simp [append_lt_append_iff, ih]
          · rw [encodeChar_lt_iff hcd]
            simp [hcd]

/-- A text in UTF-8 tells its characters. -/
theorem utf8Bytes_inj {s t : List Char} : utf8Bytes s = utf8Bytes t ↔ s = t := by
  refine ⟨fun h => ?_, congrArg _⟩
  have apart {u v : List Char} (huv : utf8Bytes u = utf8Bytes v) : ¬ u < v := by
    rw [← utf8Bytes_lt_iff, huv]
    exact List.lt_irrefl _
  exact List.le_antisymm (List.not_lt.1 (apart h.symm)) (List.not_lt.1 (apart h))

/-- A text comes before another exactly when its bytes do. -/
theorem lt_iff_bytes_lt (s t : String) : s < t ↔ utf8Bytes s.toList < utf8Bytes t.toList := by
  rw [utf8Bytes_lt_iff, String.lt_iff_toList_lt]

/-! ## Enumerations -/

/-- `texts` lists a set of texts once each, in the strictly ascending order of their bytes. -/
structure Enumerates (texts : List String) (member : String → Prop) : Prop where
  ascending : texts.Pairwise fun a b => utf8Bytes a.toList < utf8Bytes b.toList
  mem_iff : ∀ text, text ∈ texts ↔ member text

namespace Enumerates

variable {texts others : List String} {member : String → Prop}

/-- Keys in ascending order enumerate whatever set they make up. -/
theorem of_ascending (h : texts.Pairwise (· < ·)) (mem_iff : ∀ text, text ∈ texts ↔ member text) :
    Enumerates texts member :=
  ⟨h.imp fun hlt => (lt_iff_bytes_lt _ _).1 hlt, mem_iff⟩

theorem nodup (h : Enumerates texts member) : texts.Nodup := by
  refine h.ascending.imp fun {a b} hlt heq => ?_
  subst heq
  exact List.lt_irrefl _ hlt

/-- A set has one enumeration. -/
theorem unique (h : Enumerates texts member) (h' : Enumerates others member) : texts = others := by
  have hmem : ∀ text, text ∈ texts ↔ text ∈ others := fun text =>
    (h.mem_iff text).trans (h'.mem_iff text).symm
  refine List.Perm.eq_of_pairwise (fun a b _ _ hab hba => ?_) h.ascending h'.ascending
    ((List.perm_ext_iff_of_nodup h.nodup h'.nodup).2 hmem)
  exact absurd hba (List.lt_asymm hab)

end Enumerates

end ArtifactStaging.Text
