/-
# ArtifactStaging.Dictionary -- a finite map whose keys ascend

The entries stand in a list in ascending order of their keys, so a key stands
there once and two dictionaries with the same entries are equal values.
`get?_insert`, `get?_mapValues` and `get?_erase` say what each update does to every look-up;
`mem_entries_iff` ties the list to the look-up.
-/

set_option autoImplicit false

namespace ArtifactStaging

/-- An order in which any two keys are either equal or one before the other. -/
class KeyOrder (κ : Type) [LT κ] : Prop where
  trans : ∀ {a b c : κ}, a < b → b < c → a < c
  irrefl : ∀ a : κ, ¬ a < a
  connected : ∀ {a b : κ}, ¬ a < b → ¬ b < a → a = b

instance : KeyOrder String where
  trans := String.lt_trans
  irrefl := String.lt_irrefl
  connected h₁ h₂ := String.le_antisymm (String.not_lt.1 h₂) (String.not_lt.1 h₁)

/-- Lists of keys are ordered by the first key in which they differ. -/
instance {κ : Type} [LT κ] [KeyOrder κ] : KeyOrder (List κ) where
  trans :=
    haveI : Trans (· < · : κ → κ → Prop) (· < ·) (· < ·) := ⟨KeyOrder.trans⟩
    List.lt_trans
  irrefl :=
    haveI : Std.Irrefl (· < · : κ → κ → Prop) := ⟨KeyOrder.irrefl⟩
    List.lt_irrefl
  connected h₁ h₂ :=
    haveI : Std.Trichotomous (· < · : κ → κ → Prop) := ⟨fun _ _ => KeyOrder.connected⟩
    List.le_antisymm h₂ h₁

instance : KeyOrder UInt8 where
  trans := UInt8.lt_trans
  irrefl := UInt8.lt_irrefl
  connected h₁ h₂ := UInt8.le_antisymm (UInt8.not_lt.1 h₂) (UInt8.not_lt.1 h₁)

/-- A finite map: its entries, in ascending order of their keys. -/
structure Dictionary (κ ν : Type) [LT κ] where
  entries : List (κ × ν)
  ascending : entries.Pairwise fun a b => a.1 < b.1
deriving DecidableEq

namespace Dictionary

variable {κ ν : Type}

/-! ## Lists of entries -/

/-- The value under a key. -/
def find? [DecidableEq κ] (key : κ) : List (κ × ν) → Option ν
  | [] => none
  | (other, value) :: rest => if other = key then some value else find? key rest

/-- Put a value under a key, in the place that keeps the keys ascending. -/
def putEntry [LT κ] [DecidableLT κ] [DecidableEq κ] (key : κ) (value : ν) :
    List (κ × ν) → List (κ × ν)
  | [] => [(key, value)]
  | (other, old) :: rest =>
      if other = key then (key, value) :: rest
      else if other < key then (other, old) :: putEntry key value rest
      else (key, value) :: (other, old) :: rest

theorem mem_putEntry [LT κ] [DecidableLT κ] [DecidableEq κ] {key : κ} {value : ν}
    {entries : List (κ × ν)} {entry : κ × ν} (h : entry ∈ putEntry key value entries) :
    entry = (key, value) ∨ entry ∈ entries := by
  induction entries with
  | nil => simpa [putEntry] using h
  | cons head rest ih =>
    obtain ⟨other, old⟩ := head
    simp only [putEntry] at h
    split at h
    · simp at h
      rcases h with h | h
      · exact .inl h
      · exact .inr (by simp [h])
    · split at h
      · simp at h
        rcases h with h | h
        · exact .inr (by simp [h])
        · rcases ih h with h | h
          · exact .inl h
          · exact .inr (by simp [h])
      · simpa using h

theorem ascending_putEntry [LT κ] [DecidableLT κ] [DecidableEq κ] [KeyOrder κ] {key : κ}
    {value : ν} {entries : List (κ × ν)} (h : entries.Pairwise fun a b => a.1 < b.1) :
    (putEntry key value entries).Pairwise fun a b => a.1 < b.1 := by
  induction entries with
  | nil => simp [putEntry]
  | cons head rest ih =>
    obtain ⟨other, old⟩ := head
    rw [List.pairwise_cons] at h
    simp only [putEntry]
    split
    · next heq => subst heq; exact List.pairwise_cons.2 ⟨h.1, h.2⟩
    · next hne =>
      split
      · next hlt =>
        refine List.pairwise_cons.2 ⟨fun entry hmem => ?_, ih h.2⟩
        rcases mem_putEntry hmem with rfl | hmem
        · exact hlt
        · exact h.1 entry hmem
      · next hnlt =>
        have hlt : key < other := by
          by_cases hlt : key < other
          · exact hlt
          · exact absurd (KeyOrder.connected hnlt hlt) hne
        refine List.pairwise_cons.2 ⟨fun entry hmem => ?_, List.pairwise_cons.2 h⟩
        simp at hmem
        rcases hmem with rfl | hmem
        · exact hlt
        · exact KeyOrder.trans hlt (h.1 entry hmem)

theorem find?_putEntry [LT κ] [DecidableLT κ] [DecidableEq κ] (key other : κ) (value : ν)
    (entries : List (κ × ν)) :
    find? other (putEntry key value entries) =
      if key = other then some value else find? other entries := by
  induction entries with
  | nil => simp [putEntry, find?]
  | cons head rest ih =>
    obtain ⟨first, old⟩ := head
    simp only [putEntry]
    by_cases hfirst : first = key
    · subst hfirst
      by_cases hother : first = other <;> simp [find?, hother]
    · by_cases hlt : first < key
      · by_cases hother : first = other
        · subst hother
          simp [find?, hfirst, Ne.symm hfirst, hlt]
        · simp [find?, hfirst, hlt, hother, ih]
      · simp [find?, hfirst, hlt]

theorem find?_eq_some [LT κ] [DecidableEq κ] [KeyOrder κ] {entries : List (κ × ν)}
    (h : entries.Pairwise fun a b => a.1 < b.1) {key : κ} {value : ν} :
    find? key entries = some value ↔ (key, value) ∈ entries := by
  induction entries with
  | nil => simp [find?]
  | cons head rest ih =>
    obtain ⟨other, old⟩ := head
    rw [List.pairwise_cons] at h
    by_cases hkey : other = key
    · subst hkey
      have habsent : ∀ v, (other, v) ∉ rest := fun v hmem =>
        KeyOrder.irrefl other (h.1 _ hmem)
      simp [find?, habsent, eq_comm]
    · simp [find?, hkey, Ne.symm hkey, ih h.2]

theorem find?_eq_none [DecidableEq κ] {entries : List (κ × ν)} {key : κ} :
    find? key entries = none ↔ ∀ entry ∈ entries, entry.1 ≠ key := by
  induction entries with
  | nil => simp [find?]
  | cons head rest ih =>
    obtain ⟨other, old⟩ := head
    by_cases hkey : other = key <;> simp [find?, hkey, ih]

/-! ## Dictionaries -/

variable [LT κ]

/-- Nothing under any key. -/
def empty : Dictionary κ ν := ⟨[], .nil⟩

instance : Inhabited (Dictionary κ ν) := ⟨empty⟩

instance : EmptyCollection (Dictionary κ ν) := ⟨empty⟩

/-- The value under a key. -/
def get? [DecidableEq κ] (d : Dictionary κ ν) (key : κ) : Option ν := find? key d.entries

/-- Whether there is a value under a key. -/
def contains [DecidableEq κ] (d : Dictionary κ ν) (key : κ) : Bool := (d.get? key).isSome

/-- Put a value under a key, in place of what was there. -/
def insert [DecidableLT κ] [DecidableEq κ] [KeyOrder κ] (d : Dictionary κ ν) (key : κ)
    (value : ν) : Dictionary κ ν :=
  ⟨putEntry key value d.entries, ascending_putEntry d.ascending⟩

/-- Leave out the entries that fail a test. -/
def filter (keep : κ → ν → Bool) (d : Dictionary κ ν) : Dictionary κ ν :=
  ⟨d.entries.filter fun (key, value) => keep key value, d.ascending.filter _⟩

/-- Change every value. -/
def mapValues (change : ν → ν) (d : Dictionary κ ν) : Dictionary κ ν :=
  ⟨d.entries.map fun (key, value) => (key, change value), List.pairwise_map.2 d.ascending⟩

/-- Nothing is under `key` any more. -/
def erase [DecidableEq κ] (d : Dictionary κ ν) (key : κ) : Dictionary κ ν :=
  d.filter fun other _ => !decide (other = key)

/-- The keys, ascending. -/
def keys (d : Dictionary κ ν) : List κ := d.entries.map Prod.fst

/-- How many keys there are. -/
def size (d : Dictionary κ ν) : Nat := d.entries.length

@[simp] theorem get?_empty [DecidableEq κ] (key : κ) :
    (empty : Dictionary κ ν).get? key = none := rfl

theorem get?_insert [DecidableLT κ] [DecidableEq κ] [KeyOrder κ] (d : Dictionary κ ν)
    (key other : κ) (value : ν) :
    (d.insert key value).get? other = if key = other then some value else d.get? other :=
  find?_putEntry key other value d.entries

theorem get?_mapValues [DecidableEq κ] (change : ν → ν) (d : Dictionary κ ν) (key : κ) :
    (d.mapValues change).get? key = (d.get? key).map change := by
  obtain ⟨entries, _⟩ := d
  simp only [get?, mapValues]
  induction entries with
  | nil => rfl
  | cons head rest ih =>
    obtain ⟨other, value⟩ := head
    by_cases h : other = key <;> simp_all [find?]

theorem mem_entries_iff [DecidableEq κ] [KeyOrder κ] {d : Dictionary κ ν} {key : κ}
    {value : ν} : (key, value) ∈ d.entries ↔ d.get? key = some value :=
  (find?_eq_some d.ascending).symm

theorem get?_erase [DecidableEq κ] [KeyOrder κ] (d : Dictionary κ ν) (key other : κ) :
    (d.erase key).get? other = if other = key then none else d.get? other := by
  by_cases h : other = key
  · subst h
    rw [if_pos rfl]
    exact find?_eq_none.2 fun entry hmem => by simpa using (List.mem_filter.1 hmem).2
  · rw [if_neg h]
    apply Option.ext
    intro value
    rw [← mem_entries_iff, ← mem_entries_iff]
    simp [erase, filter, h]

theorem mem_keys_iff [DecidableEq κ] {d : Dictionary κ ν} {key : κ} :
    key ∈ d.keys ↔ (d.get? key).isSome := by
  rw [Option.isSome_iff_ne_none, get?, Ne, find?_eq_none, keys, List.mem_map]
  simp

theorem mem_keys_insert [DecidableLT κ] [DecidableEq κ] [KeyOrder κ] {d : Dictionary κ ν}
    {key other : κ} {value : ν} :
    other ∈ (d.insert key value).keys ↔ key = other ∨ other ∈ d.keys := by
  rw [mem_keys_iff, mem_keys_iff, get?_insert]
  by_cases h : key = other <;> simp [h]

theorem keys_ascending (d : Dictionary κ ν) : d.keys.Pairwise (· < ·) :=
  List.pairwise_map.2 d.ascending

end Dictionary

end ArtifactStaging
