/-
# ArtifactStaging.Proofs.Location.Grammar -- which texts are URIs, and the text of a location

The grammar of locations is stated here by itself: `Splits` says that a text is
`scheme:rest`, by what stands before and behind a colon, and `UpToSlash` what the
authority of `//authority/path` is.  Nothing in it searches for a mark.

* `parse_grammar`: every text but the empty one is read, and with a scheme exactly if it
  splits and the scheme has two letters or more, or two slashes follow its colon; then the
  scheme is that one in lower case, and the authority reaches to the next slash.
* A single letter is no scheme by design, so that the letter of a drive stays local.  Two
  slashes defeat that: `C://x` is read as a URI (`drive_read_as_uri`).  Where no single letter
  stands before `://`, what is read with a scheme is what the design says.
* `render_canonical`: the text of a location that was read is read as the location, by itself
  and as a JSON value, and one location has one text.
-/
import ArtifactStaging.Proofs.Manifest.Decoding

set_option autoImplicit false

namespace ArtifactStaging.Location

open Text

variable {raw scheme scheme' rest rest' : String} {location : Location}

/-! ## The text of a location -/

/-- **The text of a location is canonical.**  What was read is read again from its text, also from
the JSON value that holds the text, and two locations that were read have one text only if they are
one. -/
theorem render_canonical (h : Location.parse raw = .ok location) :
    Location.parse location.render = .ok location ∧
    Location.decode (.str location.render) = .ok location ∧
    ∀ text other, Location.parse text = .ok other →
      (other.render = location.render ↔ other = location) := by
  have settled := settled_of_parse h
  refine ⟨parse_ok_iff.2 settled.parse?_render, decode_render settled, ?_⟩
  intro text other hother
  exact (settled_of_parse hother).render_inj settled

/-- The opaque URI `ab:/` has the text `ab:///`. -/
theorem render_canonical_bare :
    Location.parse "Ab:/" = .ok ⟨some "ab", "", "/"⟩ ∧
    Location.parse "ab:///" = .ok ⟨some "ab", "", "/"⟩ := by
  have parsed : Location.parse "Ab:/" = .ok ⟨some "ab", "", "/"⟩ := by decide
  exact ⟨parsed, (render_canonical parsed).1⟩

/-! ## The grammar -/

/-- An ASCII letter. -/
def Letter (c : Char) : Prop := 'a' ≤ c ∧ c ≤ 'z' ∨ 'A' ≤ c ∧ c ≤ 'Z'

/-- A letter, then letters, digits, plus, minus or dot. -/
def SchemeName (scheme : String) : Prop :=
  ∃ first others, scheme.toList = first :: others ∧ Letter first ∧
    ∀ c ∈ others, Letter c ∨ '0' ≤ c ∧ c ≤ '9' ∨ c = '+' ∨ c = '-' ∨ c = '.'

/-- A text is `scheme:rest`, and the rest is not empty. -/
structure Splits (raw scheme rest : String) : Prop where
  text : raw = scheme ++ ":" ++ rest
  name : SchemeName scheme
  inhabited : rest ≠ ""

/-- What stands before the first slash of a text, or all of it if there is none. -/
def UpToSlash (front text : String) : Prop :=
  '/' ∉ front.toList ∧ (text = front ∨ ∃ more, text = front ++ "/" ++ more)

theorem letter_iff {c : Char} : Letter c ↔ c.isAlpha = true := by
  rw [isAlpha_iff, isUpper_iff, isLower_iff, Or.comm]
  rfl

theorem isSchemeChar_iff {c : Char} : isSchemeChar c = true ↔
    Letter c ∨ '0' ≤ c ∧ c ≤ '9' ∨ c = '+' ∨ c = '-' ∨ c = '.' := by
  have digit : c.isDigit = true ↔ '0' ≤ c ∧ c ≤ '9' :=
    (Bool.and_eq_true_iff).trans (and_congr decide_eq_true_iff decide_eq_true_iff)
  simp only [isSchemeChar, Char.isAlphanum, Bool.or_eq_true, beq_iff_eq, letter_iff, digit,
    or_assoc]

theorem schemeName_iff : SchemeName scheme ↔ isScheme scheme.toList = true := by
  constructor
  · rintro ⟨first, others, htext, letter, later⟩
    rw [htext, isScheme, Bool.and_eq_true, List.all_eq_true]
    exact ⟨letter_iff.1 letter, fun c hc => isSchemeChar_iff.2 (later c hc)⟩
  · intro h
    cases htext : scheme.toList with
    | nil =>
        rw [htext] at h
        cases h
    | cons first others =>
        rw [htext, isScheme, Bool.and_eq_true, List.all_eq_true] at h
        exact ⟨first, others, htext, letter_iff.2 h.1, fun c hc => isSchemeChar_iff.1 (h.2 c hc)⟩

theorem SchemeName.length_pos (h : SchemeName scheme) : 0 < scheme.length := by
  obtain ⟨first, others, htext, -⟩ := h
  rw [← String.length_toList, htext]
  exact Nat.succ_pos _

theorem upToSlash_authorityAndPath (text : String) :
    UpToSlash (String.ofList (authorityAndPath text.toList).1) text := by
  refine ⟨by simpa using notMem_authorityAndPath text.toList, ?_⟩
  unfold authorityAndPath
  split
  · next authority path hcut =>
    refine .inr ⟨String.ofList path, String.toList_inj.1 ?_⟩
    simp [(cutFirst?_eq_some hcut).1]
  · exact .inl String.ofList_toList.symm

namespace Splits

theorem of_toList {front behind : List Char} (htext : raw.toList = front ++ ':' :: behind)
    (h : Location.isScheme front = true) (inhabited : behind ≠ []) :
    Splits raw (String.ofList front) (String.ofList behind) where
  text := String.toList_inj.1 (by simp [htext])
  name := schemeName_iff.2 (by simpa using h)
  inhabited := by simpa using inhabited

theorem toList (h : Splits raw scheme rest) : raw.toList = scheme.toList ++ ':' :: rest.toList := by
  simp [h.text]

theorem isScheme (h : Splits raw scheme rest) : Location.isScheme scheme.toList = true :=
  schemeName_iff.1 h.name

/-- There is no colon in a scheme, so a text splits in one way at most. -/
theorem unique (h : Splits raw scheme rest) (h' : Splits raw scheme' rest') :
    scheme = scheme' ∧ rest = rest' := by
  obtain ⟨front, behind⟩ := append_cons_inj (notMem_colon h.isScheme) (notMem_colon h'.isScheme)
    (h.toList.symm.trans h'.toList)
  exact ⟨String.toList_inj.1 front, String.toList_inj.1 behind⟩

/-- A URI is read with its scheme in lower case, and with the authority that two slashes
announce. -/
theorem read (h : Splits raw scheme rest)
    (named : 2 ≤ scheme.length ∨ ∃ tail, rest = "//" ++ tail)
    (parsed : parse? raw = some location) :
    location.scheme = some (lowerAscii scheme) ∧
    (∀ tail, rest = "//" ++ tail → UpToSlash location.authority tail) ∧
    ((∀ tail, rest ≠ "//" ++ tail) → location.authority = "") := by
  by_cases marked : ∃ tail, rest = "//" ++ tail
  · obtain ⟨tail, rfl⟩ := marked
    have htext : raw.toList = scheme.toList ++ ':' :: '/' :: '/' :: tail.toList := by
      simp [h.text]
    obtain rfl := Option.some.inj ((parse?_mark htext h.isScheme).symm.trans parsed)
    refine ⟨by simp, ?_, ?_⟩
    · intro tail' heq
      obtain rfl := (String.append_right_inj _).1 heq
      exact upToSlash_authorityAndPath tail
    · intro unmarked
      exact absurd rfl (unmarked tail)
  · have unmarked := not_exists.1 marked
    have hmark : ∀ tail, rest.toList ≠ '/' :: '/' :: tail := by
      intro tail heq
      exact unmarked (String.ofList tail) (String.toList_inj.1 (by simp [heq]))
    have hlong : 1 < scheme.toList.length := by
      rw [String.length_toList]
      exact named.resolve_right marked
    have hrest : rest.toList ≠ [] := by simpa using h.inhabited
    obtain rfl := Option.some.inj
      ((parse?_colon h.toList h.isScheme hlong hrest hmark).symm.trans parsed)
    refine ⟨by simp, ?_, ?_⟩
    · intro tail heq
      exact absurd heq (unmarked tail)
    · intro
      rfl

end Splits

/-- A text is read as a URI if it splits, unless its scheme is a single letter and no two slashes
follow. -/
theorem uri_iff : Uri raw.toList ↔ ∃ scheme rest, Splits raw scheme rest ∧
    (2 ≤ scheme.length ∨ ∃ tail, rest = "//" ++ tail) := by
  constructor
  · intro uri
    generalize htext : raw.toList = text at uri
    cases uri with
    | @mark front h behind =>
        exact ⟨_, _, .of_toList htext h (by simp), .inr ⟨String.ofList behind,
          String.toList_inj.1 (by simp)⟩⟩
    | @colon front behind h hlong hrest =>
        exact ⟨_, _, .of_toList htext h hrest, .inl (by rwa [String.length_ofList])⟩
  · rintro ⟨scheme, rest, splits, long | ⟨tail, rfl⟩⟩
    · rw [splits.toList]
      exact .colon splits.isScheme (by rwa [String.length_toList]) (by simpa using splits.inhabited)
    · rw [splits.toList, String.toList_append]
      exact .mark splits.isScheme tail.toList

/-- **Reading follows the grammar.**  Every text but the empty one is read.  It is read with a
scheme exactly if it splits and its scheme has two letters or more, or two slashes follow the
colon; so where no single letter stands before `://`, exactly if it splits and its scheme has two
letters or more.  A scheme that was read is the one the text splits at, in lower case; the authority
is what follows two slashes up to the next one, and empty if there are none. -/
theorem parse_grammar (inhabited : raw ≠ "") :
    ∃ location, Location.parse raw = .ok location ∧
      ((∀ scheme tail, Splits raw scheme ("//" ++ tail) → scheme.length ≠ 1) →
        (location.scheme.isSome ↔ ∃ scheme rest, Splits raw scheme rest ∧ 2 ≤ scheme.length)) ∧
      (location.scheme.isSome ↔ ∃ scheme rest, Splits raw scheme rest ∧
        (2 ≤ scheme.length ∨ ∃ tail, rest = "//" ++ tail)) ∧
      ∀ scheme rest, Splits raw scheme rest → location.scheme.isSome →
        location.scheme = some (lowerAscii scheme) ∧
        (∀ tail, rest = "//" ++ tail → UpToSlash location.authority tail) ∧
        ((∀ tail, rest ≠ "//" ++ tail) → location.authority = "") := by
  obtain ⟨location, parsed⟩ := exists_parse? inhabited
  have schemed : location.scheme.isSome ↔ ∃ scheme rest, Splits raw scheme rest ∧
      (2 ≤ scheme.length ∨ ∃ tail, rest = "//" ++ tail) := by
    constructor
    · intro some
      by_contra h
      cases (parse?_of_not_uri inhabited (mt uri_iff.1 h)).symm.trans parsed
      cases some
    · rintro ⟨scheme, rest, splits, named⟩
      rw [(splits.read named parsed).1]
      rfl
  refine ⟨location, parse_ok_iff.2 parsed, ?_, schemed, ?_⟩
  · intro long
    rw [schemed]
    constructor
    · rintro ⟨scheme, rest, splits, named⟩
      refine ⟨scheme, rest, splits, ?_⟩
      rcases named with named | ⟨tail, rfl⟩
      · exact named
      · have := long scheme tail splits
        have := splits.name.length_pos
        omega
    · rintro ⟨scheme, rest, splits, named⟩
      exact ⟨scheme, rest, splits, .inl named⟩
  · -- A text splits in one way, so this is how the scheme was read.
    intro scheme rest splits some
    obtain ⟨scheme', rest', splits', named⟩ := schemed.1 some
    obtain ⟨rfl, rfl⟩ := splits.unique splits'
    exact splits.read named parsed

/-- A port belongs to the authority, although a colon stands before it. -/
theorem parse_grammar_authority :
    "Ab://h:1/p" ≠ "" ∧ Splits "Ab://h:1/p" "Ab" "//h:1/p" ∧
    Location.parse "Ab://h:1/p" = .ok ⟨some "ab", "h:1", "/p"⟩ ∧ UpToSlash "h:1" "h:1/p" := by
  have inhabited : "Ab://h:1/p" ≠ "" := by decide
  have splits : Splits "Ab://h:1/p" "Ab" "//h:1/p" :=
    ⟨by decide, schemeName_iff.2 (by decide), by decide⟩
  have evaluated : Location.parse "Ab://h:1/p" = .ok ⟨some "ab", "h:1", "/p"⟩ := by
    decide
  obtain ⟨location, parsed, -, -, parts⟩ := parse_grammar inhabited
  obtain rfl := Except.ok.inj (evaluated.symm.trans parsed)
  exact ⟨inhabited, splits, evaluated, (parts _ _ splits rfl).2.1 "h:1/p" (by decide)⟩

/-- Two slashes after the letter of a drive make it a scheme, although it is a single letter. -/
theorem drive_read_as_uri :
    Splits "C://x" "C" "//x" ∧
    (¬ ∃ scheme rest, Splits "C://x" scheme rest ∧ 2 ≤ scheme.length) ∧
    Location.parse "C://x" = .ok ⟨some "c", "x", "/"⟩ := by
  have splits : Splits "C://x" "C" "//x" :=
    ⟨by decide, schemeName_iff.2 (by decide), by decide⟩
  refine ⟨splits, ?_, by decide⟩
  rintro ⟨scheme, rest, splits', long⟩
  obtain ⟨rfl, -⟩ := splits.unique splits'
  exact absurd long (by decide)

end ArtifactStaging.Location
