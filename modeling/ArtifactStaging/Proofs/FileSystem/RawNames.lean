/-
# ArtifactStaging.Proofs.FileSystem.RawNames -- names of the system and names as text

Text that the system has is read as it was written: its names are those of the text
(`names_of`), and so are its slashes at either end.

A path beneath a directory has the directory's names and then the others (`names_down`).
What is shown of it is the directory with what is shown of each name (`lossy_down`), since
a slash is shown where it stands.  Shown or not, a name is not empty, holds no slash and is a dot
or two dots only if it is one (`Proper.lossy`, `plain_lossy`).  Which name it was can be
told of text alone: `IsText` says so, of a name and of a path (`isText_down`).
-/
import ArtifactStaging.FileSystem.RawText
import ArtifactStaging.Proofs.Location.Walking
import ArtifactStaging.Proofs.Text.Lossy

set_option autoImplicit false

namespace ArtifactStaging

namespace Text

variable {α : Type} [DecidableEq α] {c : α} {ch : Char} {text : List Char} {byte : UInt8}

/-- What stands before the first separator belongs to the first piece. -/
theorem pieces_append_of_notMem {front : List α} (h : c ∉ front) (rest : List α) :
    ∃ first others, pieces c rest = first :: others ∧
      pieces c (front ++ rest) = (front ++ first) :: others := by
  obtain ⟨first, others, hrest⟩ := List.exists_cons_of_ne_nil (pieces_ne_nil c rest)
  refine ⟨first, others, hrest, ?_⟩
  induction front with
  | nil => exact hrest
  | cons d front ih =>
      obtain ⟨hd, hfront⟩ := not_or.1 (mt List.mem_cons.2 h)
      rw [List.cons_append, pieces, if_neg (Ne.symm hd), ih hfront]
      rfl

/-- A byte of ASCII stands in its own character only. -/
theorem mem_utf8EncodeChar (ascii : byte.toNat < 0x80) :
    byte ∈ String.utf8EncodeChar ch ↔ ch = Char.ofNat byte.toNat := by
  constructor
  · intro h
    obtain ⟨front, rest, hsplit⟩ := List.append_of_mem h
    have shown := lossyFrom_encodeChar ch []
    rw [List.append_nil, hsplit, lossyFrom_ascii sound_none front rest ascii] at shown
    rcases List.append_eq_singleton_iff.1 shown with ⟨-, shown⟩ | ⟨-, shown⟩
    · exact ((List.cons.inj shown).1).symm
    · cases shown
  · rintro rfl
    rw [utf8EncodeChar_ascii ascii]
    exact List.mem_singleton_self _

/-- Text is cut at the byte of a slash where it is cut at the slash. -/
theorem pieces_utf8Bytes (text : List Char) :
    pieces RawText.slash (utf8Bytes text) = (pieces '/' text).map utf8Bytes := by
  induction text with
  | nil => rfl
  | cons ch text ih =>
      rw [utf8Bytes_cons]
      by_cases hch : ch = '/'
      · subst hch
        have single : String.utf8EncodeChar '/' = [RawText.slash] := by decide
        rw [single, List.singleton_append, pieces, if_pos rfl, ih, pieces, if_pos rfl]
        rfl
      · have other : RawText.slash ∉ String.utf8EncodeChar ch :=
          mt (mem_utf8EncodeChar (by decide)).1 hch
        obtain ⟨first, others, hrest, hwhole⟩ := pieces_append_of_notMem other (utf8Bytes text)
        obtain ⟨first', others', hrest', hwhole'⟩ := pieces_cons hch text
        rw [hwhole, hwhole', List.map_cons, utf8Bytes_cons]
        rw [hrest, hrest', List.map_cons] at ih
        obtain ⟨hfirst, hothers⟩ := List.cons.inj ih
        rw [hfirst, hothers]

end Text

namespace RawText

open Text

variable {name path base relative : RawText} {names : List RawText} {text directory : String}

/-! ## Text -/

theorem of_injective : Function.Injective of := fun first second h => by
  rwa [of, of, RawText.mk.injEq, utf8Bytes_inj, String.toList_inj] at h

theorem of_inj {text other : String} : of text = of other ↔ text = other := of_injective.eq_iff

@[simp] theorem lossy_of (text : String) : (of text).lossy = text := by
  rw [lossy, of, decodeLossy_utf8Bytes, String.ofList_toList]

theorem of_eq_nil_iff : of text = ⟨[]⟩ ↔ text = "" := by
  rw [show (⟨[]⟩ : RawText) = of "" from rfl, of_inj]

theorem isEmpty_iff : path.isEmpty = true ↔ path = ⟨[]⟩ := by
  cases path
  rw [isEmpty, List.isEmpty_iff, RawText.mk.injEq]

@[simp] theorem isEmpty_of (text : String) : (of text).isEmpty = text.isEmpty := by
  rw [Bool.eq_iff_iff, isEmpty_iff, of_eq_nil_iff, String.isEmpty_iff]

theorem append_def (first second : RawText) : first ++ second = ⟨first.bytes ++ second.bytes⟩ := rfl

theorem of_append (first second : String) : of (first ++ second) = of first ++ of second := by
  rw [append_def, of, of, of, String.toList_append, utf8Bytes, List.flatMap_append]
  rfl

theorem single_slash : (⟨[slash]⟩ : RawText) = of "/" := by decide

theorem isAbsolute_iff : path.isAbsolute = true ↔ path.bytes.head? = some slash := by
  rw [isAbsolute, beq_iff_eq]

theorem endsInSlash_iff : path.endsInSlash = true ↔ path.bytes.getLast? = some slash := by
  rw [endsInSlash, beq_iff_eq]

theorem slash_mem_utf8EncodeChar {ch : Char} : slash ∈ String.utf8EncodeChar ch ↔ ch = '/' :=
  mem_utf8EncodeChar (by decide)

@[simp] theorem isAbsolute_of (path : String) :
    (of path).isAbsolute = PathText.isAbsolute path := by
  rw [Bool.eq_iff_iff, isAbsolute_iff, PathText.isAbsolute_iff, of]
  cases path.toList with
  | nil => simp [utf8Bytes]
  | cons ch rest =>
      rw [utf8Bytes_cons, List.head?_append_of_ne_nil _ String.utf8EncodeChar_ne_nil,
        List.head?_cons, Option.some.injEq]
      refine ⟨fun h => slash_mem_utf8EncodeChar.1 (List.mem_of_head? h), ?_⟩
      rintro rfl
      rfl

@[simp] theorem endsInSlash_of (path : String) :
    (of path).endsInSlash = PathText.endsInSlash path := by
  rw [Bool.eq_iff_iff, endsInSlash_iff, PathText.endsInSlash_iff, of]
  rcases List.eq_nil_or_concat path.toList with hpath | ⟨front, ch, hpath⟩
  · simp [hpath, utf8Bytes]
  · rw [hpath, List.concat_eq_append, utf8Bytes, List.flatMap_append, List.flatMap_singleton,
      List.getLast?_append_of_ne_nil _ String.utf8EncodeChar_ne_nil, List.getLast?_concat,
      Option.some.injEq]
    refine ⟨fun h => slash_mem_utf8EncodeChar.1 (List.mem_of_getLast? h), ?_⟩
    rintro rfl
    rfl

/-- The names of text are those that it has for the system. -/
@[simp] theorem names_of (path : String) : (of path).names = (PathText.names path).map of := by
  rw [RawText.names, of, pieces_utf8Bytes, PathText.names, split, List.map_map, List.filter_map,
    List.filter_map, List.map_map]
  have same : (fun name : RawText => !name.isEmpty) ∘ mk ∘ utf8Bytes =
      (fun name : String => !name.isEmpty) ∘ String.ofList := by
    funext piece
    rw [Function.comp_apply, Function.comp_apply, Function.comp_apply, ← isEmpty_of, of,
      String.toList_ofList]
  rw [same]
  refine List.map_congr_left fun piece _ => ?_
  rw [Function.comp_apply, Function.comp_apply, of, String.toList_ofList]

/-- Text beneath text is text. -/
theorem append_of (base relative : String) :
    (of base).append (of relative) = of (PathText.append base relative) := by
  rw [append, PathText.append, isAbsolute_of, isEmpty_of, endsInSlash_of, single_slash]
  split
  · rfl
  · split
    · rw [of_append]
    · rw [of_append, of_append]

theorem join_cons_cons (first second : RawText) (rest : List RawText) :
    join (first :: second :: rest) = first ++ ⟨[slash]⟩ ++ join (second :: rest) := by
  simp [join, append_def, List.intercalate_cons_cons]

theorem join_map_of (names : List String) : join (names.map of) = of (Text.join "/" names) := by
  induction names with
  | nil => rfl
  | cons first rest ih =>
      cases rest with
      | nil => simp [join, Text.join]
      | cons second rest =>
          rw [List.map_cons, List.map_cons, join_cons_cons, ← List.map_cons, ih, single_slash,
            ← of_append, ← of_append, Text.join, Text.join, String.intercalate_cons_cons]

/-! ## Paths put together -/

theorem append_relative (base : RawText) (h : relative.isAbsolute = false) :
    base.append relative =
      if base.isEmpty || base.endsInSlash then base ++ relative
      else base ++ ⟨[slash]⟩ ++ relative := by
  rw [append, if_neg (by simp [h])]

theorem isAbsolute_append_relative (h : relative.isAbsolute = false) :
    (base.append relative).isAbsolute = base.isAbsolute := by
  rw [append_relative base h]
  by_cases hbase : base = ⟨[]⟩
  · subst hbase
    exact h
  have inhabited : base.bytes ≠ [] := fun h => hbase (by cases base; exact congrArg mk h)
  have first (rest : List UInt8) : isAbsolute ⟨base.bytes ++ rest⟩ = base.isAbsolute := by
    rw [Bool.eq_iff_iff, isAbsolute_iff, isAbsolute_iff, List.head?_append_of_ne_nil _ inhabited]
  split
  · exact first relative.bytes
  · simp only [append_def, List.append_assoc]
    exact first _

theorem endsInSlash_append_relative (h : relative.isAbsolute = false)
    (inhabited : relative ≠ ⟨[]⟩) :
    (base.append relative).endsInSlash = relative.endsInSlash := by
  have written : relative.bytes ≠ [] := fun h => inhabited (by cases relative; exact congrArg mk h)
  rw [append_relative base h, Bool.eq_iff_iff, endsInSlash_iff, endsInSlash_iff]
  split <;> simp only [append_def, List.getLast?_append_of_ne_nil _ written]

theorem names_bytes_append (before after : List UInt8) :
    RawText.names ⟨before ++ slash :: after⟩ = RawText.names ⟨before⟩ ++ RawText.names ⟨after⟩ := by
  simp [RawText.names, pieces_append]

theorem names_nil : RawText.names ⟨[]⟩ = [] := rfl

/-- The names of a path with another behind it are those of the one and then of the other. -/
theorem names_append_relative (h : relative.isAbsolute = false) :
    (base.append relative).names = base.names ++ relative.names := by
  rw [append_relative base h]
  split
  · next hbase =>
    rcases Bool.or_eq_true_iff.1 hbase with hempty | hslash
    · rw [isEmpty_iff.1 hempty, names_nil]
      rfl
    · -- The slash at the end stands between the two.
      obtain ⟨front, hfront⟩ := List.getLast?_eq_some_iff.1 (endsInSlash_iff.1 hslash)
      have hnames := names_bytes_append front []
      rw [← hfront, names_nil, List.append_nil] at hnames
      rw [append_def, hfront, List.append_assoc, List.singleton_append, names_bytes_append]
      exact congrArg (· ++ _) hnames.symm
  · rw [append_def, append_def, List.append_assoc, List.singleton_append]
    exact names_bytes_append _ _

/-! ## Beneath a directory -/

/-- Whether something is one name: it is not empty and holds no slash. -/
def Proper (name : RawText) : Prop := name ≠ ⟨[]⟩ ∧ slash ∉ name.bytes

instance (name : RawText) : Decidable name.Proper :=
  inferInstanceAs (Decidable (name ≠ ⟨[]⟩ ∧ slash ∉ name.bytes))

/-- Whether a name leads down. -/
def Plain (name : RawText) : Prop := name ≠ of "." ∧ name ≠ of ".."

instance (name : RawText) : Decidable name.Plain :=
  inferInstanceAs (Decidable (name ≠ of "." ∧ name ≠ of ".."))

/-- Whether something can be told from what is shown of it. -/
def IsText (raw : RawText) : Prop := of raw.lossy = raw

instance (raw : RawText) : Decidable raw.IsText :=
  inferInstanceAs (Decidable (of raw.lossy = raw))

/-- A name of a path is one name. -/
theorem proper_of_mem_names (h : name ∈ path.names) : name.Proper := by
  obtain ⟨cut, inhabited⟩ := List.mem_filter.1 h
  obtain ⟨piece, hpiece, rfl⟩ := List.mem_map.1 cut
  exact ⟨fun hempty => by simp [isEmpty_iff.2 hempty] at inhabited, notMem_of_mem_pieces hpiece⟩

section

variable (proper : ∀ name ∈ names, Proper name)

include proper

theorem pieces_join (inhabited : names ≠ []) :
    pieces slash (join names).bytes = names.map bytes := by
  rw [join, pieces_eq_splitOn]
  refine List.splitOn_intercalate slash (fun piece hpiece => ?_) (by simpa using inhabited)
  obtain ⟨name, hname, rfl⟩ := List.mem_map.1 hpiece
  exact (proper name hname).2

theorem notMem_nil_bytes : [] ∉ names.map bytes := by
  intro h
  obtain ⟨name, hname, hempty⟩ := List.mem_map.1 h
  exact (proper name hname).1 (by cases name; exact congrArg mk hempty)

@[simp] theorem names_join : (join names).names = names := by
  by_cases h : names = []
  · subst h
    rfl
  · rw [RawText.names, pieces_join proper h, List.map_map]
    refine (congrArg _ (List.map_id names)).trans (List.filter_eq_self.2 fun name hname => ?_)
    simpa [← Bool.not_eq_true, isEmpty_iff] using (proper name hname).1

theorem isAbsolute_join : (join names).isAbsolute = false := by
  by_cases h : names = []
  · subst h
    rfl
  rw [← Bool.not_eq_true, isAbsolute_iff]
  intro first
  obtain ⟨rest, hrest⟩ := List.head?_eq_some_iff.1 first
  have cut := pieces_join proper h
  rw [hrest, pieces, if_pos rfl] at cut
  exact notMem_nil_bytes proper (cut ▸ List.mem_cons_self)

theorem endsInSlash_join : (join names).endsInSlash = false := by
  by_cases h : names = []
  · subst h
    rfl
  rw [← Bool.not_eq_true, endsInSlash_iff]
  intro last
  obtain ⟨front, hfront⟩ := List.getLast?_eq_some_iff.1 last
  have cut := pieces_join proper h
  rw [hfront, pieces_append] at cut
  exact notMem_nil_bytes proper (cut ▸ List.mem_append_right _ List.mem_cons_self)

theorem join_ne_nil (inhabited : names ≠ []) : join names ≠ ⟨[]⟩ := by
  intro h
  have back := names_join proper
  rw [h] at back
  exact inhabited back.symm

/-- A path beneath a directory starts where the directory's does. -/
theorem isAbsolute_down : (down path names).isAbsolute = path.isAbsolute :=
  isAbsolute_append_relative (isAbsolute_join proper)

/-- A path beneath a directory has its names and then the others. -/
theorem names_down : (down path names).names = path.names ++ names := by
  rw [down, names_append_relative (isAbsolute_join proper), names_join proper]

/-- A path beneath a directory ends in the last of the names. -/
theorem endsInSlash_down (inhabited : names ≠ []) : (down path names).endsInSlash = false := by
  rw [down, endsInSlash_append_relative (isAbsolute_join proper) (join_ne_nil proper inhabited),
    endsInSlash_join proper]

end

/-! ## What is shown -/

/-- What is shown of a name is one name. -/
theorem Proper.lossy (proper : name.Proper) : name.lossy ≠ "" ∧ '/' ∉ name.lossy.toList := by
  constructor
  · intro empty
    have nothing : lossyFrom none name.bytes = [] := String.ofList_eq_empty_iff.1 empty
    have told : name.bytes = utf8Bytes (lossyFrom none name.bytes) :=
      (eq_of_lossyFrom_ascii sound_none (by simp [nothing])).2
    rw [nothing] at told
    exact proper.1 (by cases name; exact congrArg mk told)
  · intro shown
    rw [RawText.lossy, decodeLossy, String.toList_ofList] at shown
    obtain ⟨byte, within, ascii, hbyte⟩ := mem_of_mem_lossyFrom sound_none shown (by decide)
    have single := (mem_utf8EncodeChar ascii).2 hbyte
    rw [show String.utf8EncodeChar '/' = [slash] by decide, List.mem_singleton] at single
    exact proper.2 (single ▸ within)

/-- What shows nothing but ASCII is what it shows. -/
theorem eq_of_lossy (ascii : ∀ c ∈ text.toList, c.toNat < 0x80) (h : name.lossy = text) :
    name = of text := by
  have shown : lossyFrom none name.bytes = text.toList := by
    rw [← h, RawText.lossy, decodeLossy, String.toList_ofList]
  have told : name.bytes = utf8Bytes (lossyFrom none name.bytes) :=
    (eq_of_lossyFrom_ascii sound_none (by rwa [shown])).2
  rw [shown] at told
  cases name
  exact congrArg mk told

/-- What is shown of a name leads down exactly if the name does. -/
theorem plain_lossy : PathText.Plain name.lossy ↔ name.Plain := by
  have told (text : String) (ascii : ∀ c ∈ text.toList, c.toNat < 0x80) :
      name.lossy = text ↔ name = of text :=
    ⟨eq_of_lossy ascii, fun h => by rw [h, lossy_of]⟩
  rw [PathText.Plain, Plain, ne_eq, ne_eq, told "." (by simp), told ".." (by simp)]

/-- What stands behind text is shown as if it stood alone. -/
theorem lossy_of_append (text : String) (rest : RawText) :
    (of text ++ rest).lossy = text ++ rest.lossy := by
  rw [← String.toList_inj, append_def]
  simp only [RawText.lossy, decodeLossy, String.toList_append, String.toList_ofList]
  exact lossyFrom_utf8Bytes_append _ _

/-- A slash is shown where it stands. -/
theorem lossy_append_slash (before after : RawText) :
    (before ++ ⟨[slash]⟩ ++ after).lossy = before.lossy ++ "/" ++ after.lossy := by
  rw [← String.toList_inj, append_def, append_def, List.append_assoc, List.singleton_append]
  simp only [RawText.lossy, decodeLossy, String.toList_append, String.toList_ofList]
  rw [lossyFrom_ascii sound_none before.bytes after.bytes (by decide), List.append_assoc]
  rfl

theorem lossy_join (names : List RawText) :
    (join names).lossy = Text.join "/" (names.map lossy) := by
  induction names with
  | nil => rfl
  | cons name rest ih =>
      cases rest with
      | nil => simp [join, Text.join]
      | cons second rest =>
          rw [join_cons_cons, lossy_append_slash, ih]
          simp only [List.map_cons, Text.join, String.intercalate_cons_cons]

theorem plain_of : (of text).Plain ↔ PathText.Plain text := by rw [← plain_lossy, lossy_of]

theorem proper_of : (of text).Proper ↔ text ≠ "" ∧ '/' ∉ text.toList := by
  constructor
  · intro proper
    simpa using proper.lossy
  · rintro ⟨written, whole⟩
    refine ⟨mt of_eq_nil_iff.1 written, fun h => ?_⟩
    obtain ⟨ch, within, byte⟩ := List.mem_flatMap.1 h
    exact whole (slash_mem_utf8EncodeChar.1 byte ▸ within)

/-- What is shown of a path starts at the root exactly if the path does. -/
theorem isAbsolute_lossy (path : RawText) : PathText.isAbsolute path.lossy = path.isAbsolute := by
  rw [Bool.eq_iff_iff, PathText.isAbsolute_iff, isAbsolute_iff]
  by_cases cut : slash ∈ path.bytes
  · -- The first slash is shown behind what is shown of the bytes before it.
    obtain ⟨before, after, split, whole⟩ := List.eq_append_cons_of_mem cut
    have shown := lossy_append_slash ⟨before⟩ ⟨after⟩
    rw [append_def, append_def, List.append_assoc, List.singleton_append, ← split] at shown
    rw [shown, split]
    by_cases empty : before = []
    · subst empty
      have nothing : (⟨[]⟩ : RawText).lossy = "" := rfl
      simp [nothing]
    · have proper : Proper ⟨before⟩ := ⟨by simpa using empty, whole⟩
      obtain ⟨written, whole'⟩ := proper.lossy
      rw [String.toList_append, String.toList_append, List.append_assoc,
        List.head?_append_of_ne_nil _ (by simpa using written),
        List.head?_append_of_ne_nil _ empty]
      exact iff_of_false (fun h => whole' (List.mem_of_head? h))
        fun h => whole (List.mem_of_head? h)
  · refine iff_of_false (fun h => ?_) fun h => cut (List.mem_of_head? h)
    by_cases empty : path = ⟨[]⟩
    · subst empty
      cases h
    · exact (Proper.lossy ⟨empty, cut⟩).2 (List.mem_of_head? h)

/-- What is shown of a path beneath a directory. -/
theorem lossy_down (directory : String) (names : List RawText) :
    (down (of directory) names).lossy =
      PathText.append directory (Text.join "/" (names.map lossy)) := by
  rw [down, append, PathText.append, isEmpty_of, endsInSlash_of, ← lossy_join, isAbsolute_lossy]
  split
  · rfl
  split
  · exact lossy_of_append _ _
  · rw [lossy_append_slash, lossy_of]

/-! ## What can be told -/

theorem isText_of (text : String) : (of text).IsText := by rw [IsText, lossy_of]

/-- A path beneath a directory of text is text exactly if all names are. -/
theorem isText_down (proper : ∀ name ∈ names, Proper name) (directory : String) :
    (down (of directory) names).IsText ↔ ∀ name ∈ names, name.IsText := by
  constructor
  · intro told name hname
    have split : (down (of directory) names).names = (of directory).names ++ names :=
      names_down proper
    rw [← told, names_of] at split
    have mem : name ∈ (PathText.names (down (of directory) names).lossy).map of :=
      split ▸ List.mem_append_right _ hname
    obtain ⟨text, -, rfl⟩ := List.mem_map.1 mem
    exact isText_of text
  · intro told
    have texts : (names.map lossy).map of = names := by
      rw [List.map_map]
      exact (List.map_congr_left told).trans (List.map_id names)
    rw [← texts, down, join_map_of, append_of]
    exact isText_of _

end RawText

end ArtifactStaging
