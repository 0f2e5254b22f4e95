/-
# ArtifactStaging.Proofs.FileSystem.Growth -- what is written makes the tree grow

Making directories goes up and down again, and all it does is to make single directories
(`createDirectories_preserves`).  Each is put where nothing stood, and the directory that holds it
is stamped; all else stays as it is, also when it fails halfway (`createDirectories_keeps`).
Copying also writes over a file, so the file system grows, but what a file holds may change
(`grows_of_copy`).
-/
import ArtifactStaging.Proofs.FileSystem.Resolution

set_option autoImplicit false

namespace ArtifactStaging

/-! ## One file under all its names -/

namespace Entry

variable {entry other : Entry}

theorem afterWriting_of_apart (apart : entry.sameFile other = false) :
    entry.afterWriting other = other := by
  rw [afterWriting, apart, if_neg Bool.false_ne_true]

theorem sameFile_of_isFile (other : Entry) (h : entry.isFile = false) :
    entry.sameFile other = false := by
  cases entry <;> first | rfl | cases h

end Entry

/-! ## What stays as it is -/

namespace FileSystem

variable {fs next later : FileSystem} {path source destination : RawText} {place : Place}
  {entry : Entry}

/-- The same machine later: it grew, and what is no directory stands as it did. -/
structure Keeps (fs later : FileSystem) : Prop where
  grows : fs.Grows later
  stays : ∀ place entry, fs.tree.at? place = some entry → entry.isDirectory = false →
    later.tree.at? place = some entry

theorem Keeps.refl (fs : FileSystem) : fs.Keeps fs := ⟨.refl fs, fun _ _ h _ => h⟩

theorem Keeps.trans {first second third : FileSystem} (h : first.Keeps second)
    (h' : second.Keeps third) : first.Keeps third :=
  ⟨h.grows.trans h'.grows, fun place entry hat other =>
    h'.stays place entry (h.stays place entry hat other) other⟩

theorem grows_put (h : ∀ old, fs.tree.at? place = some old → old.SameKind entry)
    (fresh : fs.tree.at? place = none → entry.isFile = true ∨ entry.isDirectory = true) :
    fs.Grows (fs.put place entry) :=
  ⟨FileTree.grows_put h fresh, rfl⟩

/-- What is put where nothing or a directory stands leaves the rest as it is, unless it is a file
that has other names. -/
theorem keeps_put
    (h : ∀ old, fs.tree.at? place = some old → old.isDirectory = true ∧ old.SameKind entry)
    (fresh : fs.tree.at? place = none → entry.isFile = true ∨ entry.isDirectory = true)
    (apart : ∀ other old, fs.tree.at? other = some old → entry.sameFile old = false) :
    fs.Keeps (fs.put place entry) := by
  refine ⟨grows_put (fun old hold => (h old hold).2) fresh, fun other old hold file => ?_⟩
  by_cases admits : fs.tree.admits place entry = true
  · rw [put, FileTree.at?_put admits, if_neg, hold, Option.map_some,
      Entry.afterWriting_of_apart (apart other old hold)]
    rintro rfl
    rw [(h old hold).1] at file
    cases file
  · simpa [put, FileTree.put, admits] using hold

/-- What a directory shows once it is stamped. -/
def stamped (now : Int64) : Entry → Entry
  | .directory attributes => .directory { attributes with modified := now }
  | entry => entry

/-- A directory may be written wherever something stands. -/
theorem admits_directory {attributes : Attributes} (h : fs.tree.at? place = some entry) :
    fs.tree.admits place (.directory attributes) = true := by
  rw [FileTree.admits, FileTree.isDirectory_dropLast_of_at? h]
  rfl

/-- Stamping a directory changes nothing else. -/
theorem at?_touch (place other : Place) :
    (fs.touch place).tree.at? other =
      if place = other then (fs.tree.at? other).map (stamped fs.now) else fs.tree.at? other := by
  have same (old : Entry) (h : fs.tree.at? place = some old) (plain : stamped fs.now old = old) :
      fs.tree.at? other =
        if place = other then (fs.tree.at? other).map (stamped fs.now) else fs.tree.at? other := by
    split
    · next heq => rw [← heq, h, Option.map_some, plain]
    · rfl
  unfold touch
  split
  · next attributes hat =>
    rw [put, FileTree.at?_put (admits_directory hat)]
    split
    · next heq => rw [← heq, hat]; rfl
    · cases fs.tree.at? other with
      | none => rfl
      | some old =>
          exact congrArg some (Entry.afterWriting_of_apart (Entry.sameFile_of_isFile old rfl))
  · next other' =>
    cases hat : fs.tree.at? place with
    | none =>
        split
        · next heq => rw [← heq, hat]; rfl
        · rfl
    | some old =>
        refine same old hat ?_
        cases old with
        | directory attributes => exact absurd hat (other' attributes)
        | file => rfl
        | link => rfl
        | special => rfl

theorem keeps_touch (fs : FileSystem) (place : Place) : fs.Keeps (fs.touch place) := by
  have kind (entry : Entry) : entry.SameKind (stamped fs.now entry) := by
    cases entry <;> first | exact .refl _ | trivial
  refine ⟨⟨⟨fun other old hold => ?_, fun other later hlater file directory => ?_⟩, ?_⟩,
    fun other old hold file => ?_⟩
  · rw [at?_touch, hold]
    split
    · exact ⟨_, rfl, kind old⟩
    · exact ⟨_, rfl, .refl old⟩
  · rw [at?_touch] at hlater
    split at hlater
    · obtain ⟨old, hold, rfl⟩ := Option.map_eq_some_iff.1 hlater
      exact ⟨old, hold, kind old⟩
    · exact ⟨later, hlater, .refl later⟩
  · unfold touch
    split <;> rfl
  · rw [at?_touch, hold]
    split
    · cases old <;> first | rfl | cases file
    · rfl

/-- What is made where nothing stands leaves the rest as it is. -/
theorem keeps_add (absent : fs.tree.at? place = none)
    (fresh : entry.isFile = true ∨ entry.isDirectory = true)
    (apart : ∀ other old, fs.tree.at? other = some old → entry.sameFile old = false) :
    fs.Keeps (fs.add place entry) :=
  (keeps_put (fun old hold => by rw [absent] at hold; cases hold) (fun _ => fresh) apart).trans
    (keeps_touch _ _)

/-! ## Directories -/

theorem holds_of_resolveLast {target : Target} (h : fs.resolveLast path = .ok target) :
    target.Holds fs.tree := by
  simp only [resolveLast, Except.bind_ok_iff] at h
  obtain ⟨_, _, led⟩ := h
  exact followWithin_holds _ _ _ led

theorem keeps_of_makeDirectory (h : fs.makeDirectory path = .ok next) : fs.Keeps next := by
  simp only [makeDirectory, Except.bind_ok_iff] at h
  obtain ⟨target, led, h⟩ := h
  cases target with
  | found place entry => cases h
  | missing place asDirectory =>
      cases h
      exact keeps_add (holds_of_resolveLast led) (.inr rfl) fun _ old _ =>
        Entry.sameFile_of_isFile old rfl

theorem makeDirectory_of_attempt {path : String} (h : fs.attempt path = .made next) :
    fs.makeDirectory path = .ok next := by
  unfold attempt at h
  split at h
  · next made =>
    cases h
    exact made
  · split at h
    · cases h
    · split at h <;> cases h

/-! What each single directory keeps, making directories keeps, also when it fails halfway. -/

section

variable {P : FileSystem → Prop}

theorem makeEach_preserves
    (step : ∀ fs next path, P fs → fs.makeDirectory path = .ok next → P next)
    (paths : List String) (start : P fs) : P (fs.makeEach paths).1 := by
  induction paths generalizing fs with
  | nil => exact start
  | cons path rest ih =>
      simp only [makeEach]
      split
      · next made => exact ih (step _ _ _ start made)
      · split
        · exact ih start
        · exact start

theorem makeFrom_preserves
    (step : ∀ fs next path, P fs → fs.makeDirectory path = .ok next → P next)
    (below above : List String) (start : P fs) : P (fs.makeFrom below above).1 := by
  induction above generalizing below with
  | nil => exact makeEach_preserves step below start
  | cons path above ih =>
      simp only [makeFrom]
      split
      · next tried =>
        exact makeEach_preserves step below
          (step _ _ _ start (makeDirectory_of_attempt tried))
      · exact makeEach_preserves step below start
      · exact ih (path :: below)
      · exact start

theorem createDirectories_preserves
    (step : ∀ fs next path, P fs → fs.makeDirectory path = .ok next → P next)
    (path : String) (start : P fs) : P (fs.createDirectories path).1 := by
  unfold createDirectories
  split
  · exact start
  · exact makeFrom_preserves step [] _ start

end

/-- Making directories leaves everything that stood as it is. -/
theorem createDirectories_keeps (fs : FileSystem) (path : String) :
    fs.Keeps (fs.createDirectories path).1 :=
  createDirectories_preserves (fun _ _ _ keeps made => keeps.trans (keeps_of_makeDirectory made))
    path (.refl fs)

/-! ## Copies -/

theorem holds_of_resolveForWriting {target : Target} (h : fs.resolveForWriting path = .ok target) :
    target.Holds fs.tree := by
  simp only [resolveForWriting, Except.bind_ok_iff] at h
  obtain ⟨_, _, h⟩ := h
  split at h
  · obtain ⟨other, _, h⟩ := Except.bind_ok_iff.1 h
    cases other <;> cases h
  · obtain ⟨other, led, h⟩ := Except.bind_ok_iff.1 h
    have holds := followWithin_holds _ _ _ led
    split at h <;> cases h <;> exact holds

/-- A new file is none of those that stand. -/
theorem apart_of_freshNumber {content : Content} {attributes : Attributes} (other : Place)
    (old : Entry) (h : fs.tree.at? other = some old) :
    Entry.sameFile (.file fs.tree.freshNumber content attributes) old = false := by
  rw [← Bool.not_eq_true, Entry.sameFile_iff]
  rintro ⟨number, _, _, content', attributes', heq, rfl⟩
  cases heq
  exact absurd (FileTree.number_lt_freshNumber h rfl) (Nat.lt_irrefl _)

/-- How a target takes what is written to it. -/
inductive Receives (fs : FileSystem) (content : Content) (bits : Option UInt32 → UInt32) :
    Target → FileSystem → Prop
  /-- In place of what a file held. -/
  | replaced {place : Place} {number : Nat} {old : Content} {attributes : Attributes}
      (stands : fs.tree.at? place = some (.file number old attributes)) :
      Receives fs content bits (.found place (.file number old attributes))
        (fs.put place (.file number content ⟨fs.now, bits (some attributes.mode)⟩))
  /-- To a new file. -/
  | new {place : Place} {asDirectory : Bool} (absent : fs.tree.at? place = none) :
      Receives fs content bits (.missing place asDirectory)
        (fs.add place (.file fs.tree.freshNumber content ⟨fs.now, bits none⟩))
  /-- By a pipe or a device. -/
  | passed {place : Place} {kind : Special} {attributes : Attributes} (open' : kind ≠ .socket) :
      Receives fs content bits (.found place (.special kind attributes)) fs

theorem receive_ok_iff {content : Content} {bits : Option UInt32 → UInt32} {target : Target}
    (holds : target.Holds fs.tree) :
    fs.receive content bits target = .ok next ↔ Receives fs content bits target next := by
  constructor
  · intro h
    cases target with
    | missing place asDirectory =>
        cases h
        exact .new holds
    | found place entry =>
        cases entry with
        | file number old attributes =>
            cases h
            exact .replaced holds
        | directory attributes => cases h
        | link target modified => cases h
        | special kind attributes =>
            cases kind <;> cases h <;> exact .passed (by simp)
  · intro h
    cases h with
    | replaced => rfl
    | new => rfl
    | @passed _ kind => cases kind <;> first | rfl | contradiction

/-- What is not written over a file leaves every file as it is. -/
theorem Receives.keeps {content : Content} {bits : Option UInt32 → UInt32} {target : Target}
    (h : Receives fs content bits target next) (other : target.number? = none) :
    fs.Keeps next := by
  cases h with
  | replaced => cases other
  | new absent => exact keeps_add absent (.inl rfl) apart_of_freshNumber
  | passed => exact .refl fs

/-- What is written makes the file system grow. -/
theorem Receives.grows {content : Content} {bits : Option UInt32 → UInt32} {target : Target}
    (h : Receives fs content bits target next) : fs.Grows next := by
  cases h with
  | replaced stands =>
      refine grows_put (fun old hold => ?_) fun absent => ?_
      · cases stands.symm.trans hold
        exact rfl
      · rw [stands] at absent
        cases absent
  | new absent => exact (keeps_add absent (.inl rfl) apart_of_freshNumber).grows
  | passed => exact .refl fs

theorem copy_ok_iff :
    fs.copy source destination = .ok next ↔
      ∃ origin number content attributes target written,
        fs.locate source = .ok (origin, .file number content attributes) ∧
        fs.resolveForWriting destination = .ok target ∧
        Receives fs (if target.number? = some number then Content.empty else content)
          (fun _ => attributes.mode) target written ∧
        next = { written with now := fs.now + fs.tick } := by
  simp only [copy, FileSystem.entry, Except.bind_ok_iff, Except.map_ok_iff]
  constructor
  · rintro ⟨_, ⟨⟨origin, found⟩, led, rfl⟩, h⟩
    cases found with
    | directory attributes => cases h
    | link target modified => cases h
    | special kind attributes => cases kind <;> cases h
    | file number content attributes =>
        obtain ⟨target, opened, h⟩ := Except.bind_ok_iff.1 h
        obtain ⟨written, received, h⟩ := Except.bind_ok_iff.1 h
        cases h
        exact ⟨origin, number, content, attributes, target, written, led, opened,
          (receive_ok_iff (holds_of_resolveForWriting opened)).1 received, rfl⟩
  · rintro ⟨origin, number, content, attributes, target, written, led, opened, received, rfl⟩
    refine ⟨_, ⟨_, led, rfl⟩, Except.bind_ok_iff.2 ⟨target, opened, Except.bind_ok_iff.2 ?_⟩⟩
    exact ⟨written, (receive_ok_iff (holds_of_resolveForWriting opened)).2 received, rfl⟩

theorem grows_of_copy (h : fs.copy source destination = .ok next) : fs.Grows next := by
  obtain ⟨_, _, _, _, target, written, _, _, received, rfl⟩ := copy_ok_iff.1 h
  exact ⟨received.grows.tree, received.grows.here⟩

end FileSystem

end ArtifactStaging
