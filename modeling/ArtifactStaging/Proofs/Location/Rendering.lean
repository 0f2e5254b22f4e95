/-
# ArtifactStaging.Proofs.Location.Rendering -- a location's text is read as the location

A location is `Settled` in one of three forms: a path that is not read as a URI, an opaque
`scheme:path`, or a full URI.  What was read is settled (`settled_of_parse?`), and settled
locations are those that their own text is read as (`settled_iff`).

Joining keeps this but for one kind of location, the `Dangling` path: `ab:` is a path, since
nothing stands after the colon, and `ab:/c` is a URI.  What is settled and does not dangle is
`Firm`, and firm is what is joined to it.
-/
import ArtifactStaging.Proofs.Location.Joining

set_option autoImplicit false

namespace ArtifactStaging

open Text

/-! ## The first mark of a text -/

namespace Text

variable {c : Char} {before after other more text mark : List Char}

theorem cutFirst?_append (h : c ∉ before) (after : List Char) :
    cutFirst? c (before ++ c :: after) = some (before, after) := by
  induction before with
  | nil => simp [cutFirst?]
  | cons d before ih =>
      rw [List.mem_cons, not_or] at h
      rw [List.cons_append, cutFirst?, if_neg (Ne.symm h.1), ih h.2]
      rfl

/-- What stands before the first `c` is determined, and so is what stands after it. -/
theorem append_cons_inj (hbefore : c ∉ before) (hother : c ∉ other)
    (h : before ++ c :: after = other ++ c :: more) : before = other ∧ after = more := by
  have hcut := cutFirst?_append hbefore after
  rw [h, cutFirst?_append hother] at hcut
  simpa [eq_comm] using hcut

theorem cutMark?_eq_some (h : cutMark? mark text = some (before, after)) :
    text = before ++ (mark ++ after) := by
  induction text generalizing before with
  | nil =>
      obtain ⟨rest, hrest, heq⟩ := Option.map_eq_some_iff.1 h
      obtain ⟨rfl, rfl⟩ := Prod.mk.inj heq
      exact (afterLead?_eq_some.1 hrest).trans (List.nil_append _).symm
  | cons d text ih =>
      rw [cutMark?] at h
      split at h
      · next rest hrest =>
        obtain ⟨rfl, rfl⟩ := Prod.mk.inj (Option.some.inj h)
        exact (afterLead?_eq_some.1 hrest).trans (List.nil_append _).symm
      · obtain ⟨⟨front, rest⟩, hcut, heq⟩ := Option.map_eq_some_iff.1 h
        obtain ⟨rfl, rfl⟩ := Prod.mk.inj heq
        rw [ih hcut]
        rfl

theorem cutMark?_append (h : c ∉ before) (after : List Char) :
    cutMark? (c :: mark) (before ++ (c :: mark ++ after)) = some (before, after) := by
  induction before with
  | nil =>
      rw [List.nil_append, List.cons_append, cutMark?,
        show c :: (mark ++ after) = c :: mark ++ after from rfl, afterLead?_eq_some.2 rfl]
  | cons d before ih =>
      rw [List.mem_cons, not_or] at h
      rw [List.cons_append, cutMark?, afterLead?, if_neg h.1, ih h.2]
      rfl

end Text

namespace Location

/-! ## Schemes -/

variable {location : Location} {raw relative : String} {scheme rest : List Char}

theorem isSchemeChar_of_isAlpha {c : Char} (h : c.isAlpha = true) : isSchemeChar c = true := by
  simp [isSchemeChar, Char.isAlphanum, h]

theorem isSchemeChar_of_mem {c : Char} (h : isScheme scheme = true) (hc : c ∈ scheme) :
    isSchemeChar c = true := by
  cases scheme with
  | nil => cases h
  | cons d scheme =>
      rw [isScheme, Bool.and_eq_true, List.all_eq_true] at h
      rcases List.mem_cons.1 hc with rfl | hc
      · exact isSchemeChar_of_isAlpha h.1
      · exact h.2 c hc

theorem notMem_colon (h : isScheme scheme = true) : ':' ∉ scheme :=
  fun hc => absurd (isSchemeChar_of_mem h hc) (by decide)

theorem notMem_slash (h : isScheme scheme = true) : '/' ∉ scheme :=
  fun hc => absurd (isSchemeChar_of_mem h hc) (by decide)

theorem isUpper_iff {c : Char} : c.isUpper = true ↔ 65 ≤ c.toNat ∧ c.toNat ≤ 90 :=
  decide_eq_true_iff

theorem isLower_iff {c : Char} : c.isLower = true ↔ 97 ≤ c.toNat ∧ c.toNat ≤ 122 :=
  (Bool.and_eq_true_iff).trans (and_congr decide_eq_true_iff decide_eq_true_iff)

theorem isAlpha_iff {c : Char} : c.isAlpha = true ↔ c.isUpper = true ∨ c.isLower = true :=
  Bool.or_eq_true_iff

theorem toNat_toLower {c : Char} (h : c.isUpper = true) : c.toLower.toNat = c.toNat + 32 := by
  have hrange := isUpper_iff.1 h
  have hlower : c.toLower = ⟨c.val + 32, _⟩ := dif_pos hrange
  rw [hlower]
  refine (UInt32.toNat_add c.val 32).trans (Nat.mod_eq_of_lt ?_)
  show c.toNat + 32 < 4294967296
  omega

theorem toLower_eq_self {c : Char} (h : ¬ c.isUpper = true) : c.toLower = c :=
  dif_neg fun hrange => h (isUpper_iff.2 hrange)

theorem not_isUpper_toLower (c : Char) : ¬ c.toLower.isUpper = true := by
  by_cases h : c.isUpper = true
  · have hrange := isUpper_iff.1 h
    rw [isUpper_iff, toNat_toLower h]
    omega
  · rwa [toLower_eq_self h]

theorem isAlpha_toLower {c : Char} (h : c.isAlpha = true) : c.toLower.isAlpha = true := by
  by_cases hupper : c.isUpper = true
  · have hrange := isUpper_iff.1 hupper
    rw [isAlpha_iff, isLower_iff, toNat_toLower hupper]
    omega
  · rwa [toLower_eq_self hupper]

theorem isSchemeChar_toLower {c : Char} (h : isSchemeChar c = true) :
    isSchemeChar c.toLower = true := by
  by_cases hupper : c.isUpper = true
  · exact isSchemeChar_of_isAlpha (isAlpha_toLower (isAlpha_iff.2 (.inl hupper)))
  · rwa [toLower_eq_self hupper]

/-- A scheme in lower case is a scheme. -/
theorem isScheme_map_toLower (h : isScheme scheme = true) :
    isScheme (scheme.map Char.toLower) = true := by
  cases scheme with
  | nil => cases h
  | cons c scheme =>
      rw [isScheme, Bool.and_eq_true, List.all_eq_true] at h
      rw [List.map_cons, isScheme, Bool.and_eq_true, List.all_eq_true]
      refine ⟨isAlpha_toLower h.1, fun d hd => ?_⟩
      obtain ⟨e, he, rfl⟩ := List.mem_map.1 hd
      exact isSchemeChar_toLower (h.2 e he)

theorem lowerAscii_lowerAscii (s : String) : lowerAscii (lowerAscii s) = lowerAscii s := by
  have htwice : Char.toLower ∘ Char.toLower = Char.toLower :=
    funext fun c => toLower_eq_self (not_isUpper_toLower c)
  rw [lowerAscii, lowerAscii, String.toList_ofList, List.map_map, htwice]

/-! ## The forms of a text -/

theorem parseAuthorityForm?_mark (h : isScheme scheme = true) (rest : List Char) :
    parseAuthorityForm? (scheme ++ ':' :: '/' :: '/' :: rest) =
      some ⟨some (lowerAscii (String.ofList scheme)),
        String.ofList (authorityAndPath rest).1,
        String.ofList (normalize (authorityAndPath rest).2)⟩ := by
  have hcut : cutMark? [':', '/', '/'] (scheme ++ ':' :: '/' :: '/' :: rest) =
      some (scheme, rest) := cutMark?_append (notMem_colon h) rest
  simp only [parseAuthorityForm?, hcut, h, if_true]

/-- What starts with a scheme and a colon has an authority only if two slashes follow. -/
theorem parseAuthorityForm?_colon (h : isScheme scheme = true)
    (hrest : ∀ tail, rest ≠ '/' :: '/' :: tail) :
    parseAuthorityForm? (scheme ++ ':' :: rest) = none := by
  unfold parseAuthorityForm?
  split
  · rfl
  · next before after hcut =>
    rw [if_neg]
    intro hbefore
    have htext := cutMark?_eq_some hcut
    exact hrest after
      (append_cons_inj (notMem_colon h) (notMem_colon hbefore) htext).2

theorem parseBareForm?_colon (h : isScheme scheme = true) (hlong : 1 < scheme.length)
    (hrest : rest ≠ []) :
    parseBareForm? (scheme ++ ':' :: rest) =
      some ⟨some (lowerAscii (String.ofList scheme)), "", String.ofList (normalize rest)⟩ := by
  have hpath : (!rest.isEmpty) = true := by simpa using hrest
  simp only [parseBareForm?, cutFirst?_append (notMem_colon h), h, hlong, hpath,
    decide_true, Bool.and_self, if_true]

theorem parse?_mark (hraw : raw.toList = scheme ++ ':' :: '/' :: '/' :: rest)
    (h : isScheme scheme = true) :
    parse? raw = some ⟨some (lowerAscii (String.ofList scheme)),
      String.ofList (authorityAndPath rest).1,
      String.ofList (normalize (authorityAndPath rest).2)⟩ := by
  simp [parse?, hraw, parseAuthorityForm?_mark h]

theorem parse?_colon (hraw : raw.toList = scheme ++ ':' :: rest) (h : isScheme scheme = true)
    (hlong : 1 < scheme.length) (hrest : rest ≠ []) (hmark : ∀ tail, rest ≠ '/' :: '/' :: tail) :
    parse? raw =
      some ⟨some (lowerAscii (String.ofList scheme)), "", String.ofList (normalize rest)⟩ := by
  simp [parse?, hraw, parseAuthorityForm?_colon h hmark, parseBareForm?_colon h hlong hrest]

theorem parse_ok_iff : Location.parse raw = .ok location ↔ parse? raw = some location := by
  unfold Location.parse
  cases parse? raw <;> simp

theorem toOption_parse (raw : String) : (Location.parse raw).toOption = parse? raw := by
  unfold Location.parse
  cases parse? raw <;> rfl

/-- Every text but the empty one is read as something. -/
theorem exists_parse? (inhabited : raw ≠ "") : ∃ location, parse? raw = some location := by
  rw [parse?, if_neg (by simpa using inhabited)]
  exact ⟨_, rfl⟩

/-- A text that is read as a URI. -/
inductive Uri : List Char → Prop
  | mark {scheme : List Char} (h : isScheme scheme = true) (rest : List Char) :
      Uri (scheme ++ ':' :: '/' :: '/' :: rest)
  | colon {scheme rest : List Char} (h : isScheme scheme = true) (hlong : 1 < scheme.length)
      (hrest : rest ≠ []) : Uri (scheme ++ ':' :: rest)

/-- What is not read as a URI is a path. -/
theorem parse?_of_not_uri (inhabited : raw ≠ "") (h : ¬ Uri raw.toList) :
    parse? raw = some (plain raw.toList) := by
  have hauthority : parseAuthorityForm? raw.toList = none := by
    unfold parseAuthorityForm?
    split
    · rfl
    · next before after hcut =>
      rw [if_neg]
      intro hscheme
      exact h (cutMark?_eq_some hcut ▸ .mark hscheme after)
  have hbare : parseBareForm? raw.toList = none := by
    unfold parseBareForm?
    split
    · rfl
    · next before after hcut =>
      rw [if_neg]
      intro hform
      simp only [Bool.and_eq_true, decide_eq_true_eq, Bool.not_eq_true', List.isEmpty_eq_false_iff]
        at hform
      exact h ((cutFirst?_eq_some hcut).1 ▸ .colon hform.1.2 hform.1.1 hform.2)
  simp [parse?, hauthority, hbare, inhabited]

theorem not_uri_nil : ¬ Uri [] := by
  intro h
  generalize htext : ([] : List Char) = text at h
  cases h <;> simp at htext

/-- What starts with a scheme starts with a letter. -/
theorem head?_ne_of_isScheme (h : isScheme scheme = true) (rest : List Char) :
    (scheme ++ rest).head? ≠ some '/' := by
  intro first
  cases scheme with
  | nil => cases h
  | cons c scheme =>
      obtain rfl : c = '/' := Option.some.inj first
      exact notMem_slash h List.mem_cons_self

theorem Uri.head?_ne {text : List Char} (h : Uri text) : text.head? ≠ some '/' := by
  cases h with
  | mark hscheme rest => exact head?_ne_of_isScheme hscheme _
  | colon hscheme hlong hrest => exact head?_ne_of_isScheme hscheme _

theorem Uri.append {text : List Char} (h : Uri text) (more : List Char) : Uri (text ++ more) := by
  cases h with
  | mark hscheme rest => simpa using Uri.mark hscheme (rest ++ more)
  | @colon _ rest hscheme hlong hrest =>
      have hmore : rest ++ more ≠ [] := by simp [hrest]
      simpa using Uri.colon hscheme hlong hmore

/-! ## Trailing slashes -/

theorem normalize_append (text : List Char) : ∃ slashes, text = normalize text ++ slashes := by
  obtain ⟨count, htext⟩ := eq_dropTrailing_append '/' text
  unfold normalize
  split
  · next hempty =>
    rw [hempty, List.nil_append] at htext
    cases count with
    | zero => exact ⟨[], by simp [htext]⟩
    | succ count => exact ⟨List.replicate count '/', by simp [htext, List.replicate_succ]⟩
  · exact ⟨_, htext⟩

theorem head?_normalize (text : List Char) : (normalize text).head? = text.head? := by
  by_cases hne : text = []
  · rw [hne]
    rfl
  · obtain ⟨slashes, htext⟩ := normalize_append text
    have hhead := congrArg List.head? htext
    rw [List.head?_append_of_ne_nil _ (normalize_ne_nil hne)] at hhead
    exact hhead.symm

theorem Normal.normalize (normal : location.Normal) :
    Location.normalize location.path.toList = location.path.toList := by
  by_cases hroot : location.path = "/"
  · rw [hroot]
    decide
  · exact normalize_eq_self fun h => hroot (normal.trailing h)

/-! ## Settled locations -/

/-- A location whose text is read as itself, in one of the three forms. -/
inductive Settled : Location → Prop
  | plain {path : String} (normal : Normal ⟨none, "", path⟩) (h : ¬ Uri path.toList) :
      Settled ⟨none, "", path⟩
  | bare {scheme path : String} (h : isScheme scheme.toList = true)
      (lower : lowerAscii scheme = scheme) (long : 1 < scheme.toList.length)
      (normal : Normal ⟨some scheme, "", path⟩) (relative : path.toList.head? ≠ some '/') :
      Settled ⟨some scheme, "", path⟩
  | full {scheme authority path : String} (h : isScheme scheme.toList = true)
      (lower : lowerAscii scheme = scheme) (whole : '/' ∉ authority.toList)
      (normal : Normal ⟨some scheme, authority, path⟩) (absolute : path.toList.head? = some '/') :
      Settled ⟨some scheme, authority, path⟩

theorem isScheme_lowerAscii (h : isScheme scheme = true) :
    isScheme (lowerAscii (String.ofList scheme)).toList = true := by
  simpa [lowerAscii] using isScheme_map_toLower h

theorem notMem_authorityAndPath (text : List Char) : '/' ∉ (authorityAndPath text).1 := by
  unfold authorityAndPath
  split
  · next hcut => exact (cutFirst?_eq_some hcut).2
  · next hcut => exact cutFirst?_eq_none.1 hcut

theorem head?_authorityAndPath (text : List Char) :
    (authorityAndPath text).2.head? = some '/' := by
  unfold authorityAndPath
  split <;> rfl

theorem authorityAndPath_append {authority path : List Char} (whole : '/' ∉ authority)
    (absolute : path.head? = some '/') :
    authorityAndPath (authority ++ path) = (authority, path) := by
  cases path with
  | nil => cases absolute
  | cons c path =>
      obtain rfl : c = '/' := Option.some.inj absolute
      rw [authorityAndPath, cutFirst?_append whole]

theorem settled_of_mark (hraw : raw.toList = scheme ++ ':' :: '/' :: '/' :: rest)
    (hscheme : isScheme scheme = true) (h : parse? raw = some location) : location.Settled := by
  have normal := normal_of_parse? h
  obtain rfl := Option.some.inj ((parse?_mark hraw hscheme).symm.trans h)
  refine .full (isScheme_lowerAscii hscheme) (lowerAscii_lowerAscii _) ?_ normal ?_
  · simpa using notMem_authorityAndPath rest
  · simpa [head?_normalize] using head?_authorityAndPath rest

theorem settled_of_colon (hraw : raw.toList = scheme ++ ':' :: rest)
    (hscheme : isScheme scheme = true) (hlong : 1 < scheme.length) (hrest : rest ≠ [])
    (hmark : ∀ tail, rest ≠ '/' :: '/' :: tail) (h : parse? raw = some location) :
    location.Settled := by
  have normal := normal_of_parse? h
  obtain rfl := Option.some.inj ((parse?_colon hraw hscheme hlong hrest hmark).symm.trans h)
  by_cases habsolute : (String.ofList (normalize rest)).toList.head? = some '/'
  · exact .full (isScheme_lowerAscii hscheme) (lowerAscii_lowerAscii _) (by simp) normal habsolute
  · refine .bare (isScheme_lowerAscii hscheme) (lowerAscii_lowerAscii _) ?_ normal habsolute
    simpa [lowerAscii] using hlong

/-- What was read is settled. -/
theorem settled_of_parse? (h : parse? raw = some location) : location.Settled := by
  by_cases inhabited : raw = ""
  · rw [inhabited] at h
    cases h
  by_cases huri : Uri raw.toList
  · generalize hraw : raw.toList = text at huri
    cases huri with
    | mark hscheme rest => exact settled_of_mark hraw hscheme h
    | @colon scheme rest hscheme hlong hrest =>
        by_cases hmark : ∃ tail, rest = '/' :: '/' :: tail
        · obtain ⟨tail, rfl⟩ := hmark
          exact settled_of_mark hraw hscheme h
        · exact settled_of_colon hraw hscheme hlong hrest (not_exists.1 hmark) h
  · have normal := normal_of_parse? h
    obtain rfl := Option.some.inj ((parse?_of_not_uri inhabited huri).symm.trans h)
    refine .plain normal fun hnormal => huri ?_
    obtain ⟨slashes, htext⟩ := normalize_append raw.toList
    rw [htext]
    simpa using hnormal.append slashes

theorem settled_of_parse (h : Location.parse raw = .ok location) : location.Settled :=
  settled_of_parse? (parse_ok_iff.1 h)

theorem render_bare (scheme : String) {path : String} (relative : path.toList.head? ≠ some '/') :
    (Location.mk (some scheme) "" path).render = scheme ++ ":" ++ path := by
  have hstarts : startsWith path "/" = false := by
    rwa [ne_eq, ← Text.startsWith_slash, Bool.not_eq_true] at relative
  simp [render, hstarts]

theorem render_full (scheme authority : String) {path : String}
    (absolute : path.toList.head? = some '/') :
    (Location.mk (some scheme) authority path).render =
      scheme ++ "://" ++ authority ++ path := by
  simp [render, (Text.startsWith_slash path).2 absolute]

/-- A settled location's text is read as the location. -/
theorem Settled.parse?_render (settled : location.Settled) :
    parse? location.render = some location := by
  cases settled with
  | @plain path normal h =>
      rw [render, parse?_of_not_uri normal.inhabited h, Location.plain, normal.normalize,
        String.ofList_toList]
  | @bare scheme path h lower long normal relative =>
      have htext : (scheme ++ ":" ++ path).toList = scheme.toList ++ ':' :: path.toList := by simp
      have hpath : path.toList ≠ [] := by simpa using normal.inhabited
      have hmark : ∀ tail, path.toList ≠ '/' :: '/' :: tail := by
        intro tail heq
        exact relative (by rw [heq]; rfl)
      rw [render_bare scheme relative, parse?_colon htext h long hpath hmark, normal.normalize,
        String.ofList_toList, String.ofList_toList, lower]
  | @full scheme authority path h lower whole normal absolute =>
      have htext : (scheme ++ "://" ++ authority ++ path).toList =
          scheme.toList ++ ':' :: '/' :: '/' :: (authority.toList ++ path.toList) := by simp
      rw [render_full scheme authority absolute, parse?_mark htext h,
        authorityAndPath_append whole absolute, normal.normalize, String.ofList_toList,
        String.ofList_toList, String.ofList_toList, lower]

/-- Settled locations of one text are one location. -/
theorem Settled.render_inj {other : Location} (settled : location.Settled)
    (settled' : other.Settled) : location.render = other.render ↔ location = other := by
  refine ⟨fun h => ?_, congrArg _⟩
  have hparsed := settled.parse?_render
  rw [h, settled'.parse?_render] at hparsed
  exact (Option.some.inj hparsed).symm

theorem settled_iff : location.Settled ↔ parse? location.render = some location :=
  ⟨Settled.parse?_render, settled_of_parse?⟩

theorem Settled.normal (settled : location.Settled) : location.Normal := by
  cases settled <;> assumption

/-! ## Joining -/

/-- A path that ends in a colon after what could be a scheme.  It is no URI, since nothing stands
after the colon, and becomes one when something is joined. -/
def Dangling (location : Location) : Prop :=
  location.scheme = none ∧ ∃ scheme, isScheme scheme = true ∧ 1 < scheme.length ∧
    location.path.toList = scheme ++ [':']

theorem not_dangling_of_scheme (h : location.scheme ≠ none) : ¬ location.Dangling :=
  fun dangling => h dangling.1

/-- The colon of a URI stands after a scheme, in which there is no slash, so it stands before any
slash. -/
theorem colon_before_slash {front added : List Char} (hscheme : isScheme scheme = true)
    (heq : front ++ '/' :: added = scheme ++ ':' :: rest) :
    ∃ middle, front = scheme ++ ':' :: middle ∧ rest = middle ++ '/' :: added := by
  rcases List.append_eq_append_iff.1 heq with ⟨more, rfl, hmore⟩ | ⟨more, rfl, hmore⟩
  · cases more with
    | nil => simp at hmore
    | cons c more =>
        obtain ⟨rfl, -⟩ := List.cons.inj hmore
        exact absurd (by simp) (notMem_slash hscheme)
  · cases more with
    | nil => simp at hmore
    | cons c more =>
        obtain ⟨rfl, hrest⟩ := List.cons.inj hmore
        exact ⟨more, rfl, hrest⟩

/-- Whether a path is a URI is decided by what stands before a slash in it, unless that ends in
its colon. -/
theorem not_uri_append {front added : List Char} (h : ¬ Uri front)
    (hfront : front.getLast? ≠ some '/') (hadded : added.head? ≠ some '/')
    (hcolon : ∀ scheme, isScheme scheme = true → 1 < scheme.length → front ≠ scheme ++ [':']) :
    ¬ Uri (front ++ '/' :: added) := by
  intro huri
  generalize htext : front ++ '/' :: added = text at huri
  cases huri with
  | @mark scheme hscheme rest =>
      obtain ⟨middle, rfl, hrest⟩ := colon_before_slash hscheme htext
      cases middle with
      | nil => exact hadded (by rw [← (List.cons.inj hrest).2]; rfl)
      | cons c middle =>
          obtain ⟨rfl, htail⟩ := List.cons.inj hrest
          cases middle with
          | nil => simp at hfront
          | cons d middle =>
              obtain ⟨rfl, -⟩ := List.cons.inj htail
              exact h (.mark hscheme middle)
  | @colon scheme rest hscheme hlong =>
      obtain ⟨middle, rfl, hrest⟩ := colon_before_slash hscheme htext
      cases middle with
      | nil => exact hcolon scheme hscheme hlong rfl
      | cons c middle => exact h (.colon hscheme hlong (by simp))

theorem join_eq_mk (location : Location) (relative : String) :
    location.join relative =
      ⟨location.scheme, location.authority, (location.join relative).path⟩ := by
  unfold join
  dsimp only
  split <;> rfl

/-- What is joined stands after one slash, and before that stands the location's path, or nothing
if it is the root. -/
theorem Normal.lead_eq_append (normal : location.Normal) :
    ∃ front, location.lead = front ++ ['/'] ∧ front.getLast? ≠ some '/' ∧
      (front = [] ∧ location.path = "/" ∨ front = location.path.toList) := by
  unfold lead
  split
  · next hroot => exact ⟨[], rfl, by simp, .inl ⟨rfl, eq_of_beq hroot⟩⟩
  · next hroot =>
    exact ⟨_, rfl, fun hlast => hroot (beq_iff_eq.2 (normal.trailing hlast)), .inr rfl⟩

theorem Normal.head?_lead (normal : location.Normal) :
    location.lead.head? = location.path.toList.head? := by
  unfold lead
  split
  · next hroot =>
    rw [eq_of_beq hroot]
    rfl
  · exact List.head?_append_of_ne_nil _ (by simpa using normal.inhabited)

/-- **A settled location stays so when something is joined**, unless it dangles. -/
theorem Settled.join (settled : location.Settled) (firm : ¬ location.Dangling) :
    (location.join relative).Settled := by
  by_cases hadded : trim '/' relative.toList = []
  · rwa [join_eq_self hadded]
  have normal : (location.join relative).Normal := settled.normal.join
  have hpath := path_join settled.normal hadded
  have hhead : (location.join relative).path.toList.head? = location.path.toList.head? := by
    rw [hpath, List.head?_append_of_ne_nil _ (lead_ne_nil location), settled.normal.head?_lead]
  cases settled with
  | @plain path hnormal h =>
      rw [join_eq_mk] at normal hpath ⊢
      refine .plain normal ?_
      obtain ⟨front, hlead, hlast, hfront⟩ := hnormal.lead_eq_append
      rw [hpath, hlead, List.append_assoc]
      refine not_uri_append ?_ hlast head?_trim ?_
      · rcases hfront with ⟨rfl, -⟩ | rfl
        · exact not_uri_nil
        · exact h
      · rintro scheme hscheme hlong rfl
        rcases hfront with ⟨hfront, -⟩ | hfront
        · simp at hfront
        · exact firm ⟨rfl, scheme, hscheme, hlong, hfront.symm⟩
  | @bare scheme path h lower long hnormal relative =>
      rw [join_eq_mk] at normal hhead ⊢
      refine .bare h lower long normal ?_
      rw [hhead]
      exact relative
  | @full scheme authority path h lower whole hnormal absolute =>
      rw [join_eq_mk] at normal hhead ⊢
      refine .full h lower whole normal ?_
      rw [hhead]
      exact absolute

/-- What is joined to a path that dangles turns it into a URI. -/
theorem not_settled_join (normal : location.Normal) (dangling : location.Dangling)
    (hadded : trim '/' relative.toList ≠ []) : ¬ (location.join relative).Settled := by
  obtain ⟨hscheme, scheme, his, hlong, hcolon⟩ := dangling
  have hroot : location.isRoot = false := by
    rw [isRoot, beq_eq_false_iff_ne]
    intro heq
    rw [heq] at hcolon
    have hlast := congrArg List.getLast? hcolon
    simp at hlast
  have hpath : (location.join relative).path.toList =
      scheme ++ ':' :: '/' :: trim '/' relative.toList := by
    rw [path_join normal hadded, lead, hroot, hcolon]
    simp
  have hnone : (location.join relative).scheme = none := by rw [join_eq_mk, hscheme]
  intro settled
  generalize location.join relative = joined at settled hpath hnone
  cases settled with
  | plain hnormal h => exact h (hpath ▸ .colon his hlong (by simp))
  | bare => cases hnone
  | full => cases hnone

theorem not_dangling_join (normal : location.Normal) (firm : ¬ location.Dangling) :
    ¬ (location.join relative).Dangling := by
  by_cases hadded : trim '/' relative.toList = []
  · rwa [join_eq_self hadded]
  rintro ⟨-, scheme, hscheme, -, hpath⟩
  obtain ⟨front, hlead, -⟩ := normal.lead_eq_append
  rw [path_join normal hadded, hlead] at hpath
  have hmem : '/' ∈ scheme ++ [':'] := by
    rw [← hpath]
    simp
  exact notMem_slash hscheme (by simpa using hmem)

/-- Settled, and still so when something is joined. -/
structure Firm (location : Location) : Prop where
  settled : location.Settled
  firm : ¬ location.Dangling

theorem Firm.join (h : location.Firm) (relative : String) : (location.join relative).Firm :=
  ⟨h.settled.join h.firm, not_dangling_join h.settled.normal h.firm⟩

/-- A settled location is firm if it is remote. -/
theorem firm_of_isRemote (settled : location.Settled) (remote : location.isRemote = true) :
    location.Firm := by
  refine ⟨settled, fun dangling => ?_⟩
  rw [isRemote, dangling.1] at remote
  cases remote

end Location

end ArtifactStaging
