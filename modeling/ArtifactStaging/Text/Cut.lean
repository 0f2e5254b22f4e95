/-
# ArtifactStaging.Text.Cut -- cutting text at a separator

Locations, keys, classpath entries and option values are all text with a
separator in it.  The cuts are stated once here, over lists of characters, and
the `String` forms below wrap them.

A cut never loses text: what stands before the separator, the separator and what
stands after it append to the text again (`cutFirst?_eq_some`,
`cutLast?_eq_some`), and a cut fails exactly when the separator is absent.
-/

set_option autoImplicit false

namespace ArtifactStaging.Text

/-! ## Lists of characters -/

/-- Drop every `c` at the end. -/
def dropTrailing (c : Char) (text : List Char) : List Char :=
  (text.reverse.dropWhile (· == c)).reverse

/-- Drop every `c` at both ends. -/
def trim (c : Char) (text : List Char) : List Char :=
  dropTrailing c (text.dropWhile (· == c))

/-- What stands before and after the first `c`, if there is one. -/
def cutFirst? (c : Char) : List Char → Option (List Char × List Char)
  | [] => none
  | d :: rest =>
      if d = c then some ([], rest)
      else (cutFirst? c rest).map fun (before, after) => (d :: before, after)

/-- What stands before and after the last `c`, if there is one. -/
def cutLast? (c : Char) : List Char → Option (List Char × List Char)
  | [] => none
  | d :: rest =>
      match cutLast? c rest with
      | some (before, after) => some (d :: before, after)
      | none => if d = c then some ([], rest) else none

/-- The text after a leading `lead`, if it starts so. -/
def afterLead? : List Char → List Char → Option (List Char)
  | [], text => some text
  | _ :: _, [] => none
  | c :: lead, d :: text => if c = d then afterLead? lead text else none

/-- What stands before and after the first occurrence of `mark`, if there is one. -/
def cutMark? (mark : List Char) : List Char → Option (List Char × List Char)
  | [] => (afterLead? mark []).map fun after => ([], after)
  | d :: rest =>
      match afterLead? mark (d :: rest) with
      | some after => some ([], after)
      | none => (cutMark? mark rest).map fun (before, after) => (d :: before, after)

/-- The pieces between the separators; what is without `c` is one piece. -/
def pieces {α : Type} [DecidableEq α] (c : α) : List α → List (List α)
  | [] => [[]]
  | d :: rest =>
      if d = c then [] :: pieces c rest
      else match pieces c rest with
        | [] => [[d]]
        | first :: others => (d :: first) :: others

/-- Whether `mark` occurs in the text. -/
def hasMark (mark text : List Char) : Bool := (cutMark? mark text).isSome

theorem cutFirst?_eq_some {c : Char} {text before after : List Char}
    (h : cutFirst? c text = some (before, after)) :
    text = before ++ c :: after ∧ c ∉ before := by
  induction text generalizing before with
  | nil => simp [cutFirst?] at h
  | cons d rest ih =>
    by_cases hd : d = c
    · simp only [cutFirst?, if_pos hd, Option.some.injEq, Prod.mk.injEq] at h
      obtain ⟨rfl, rfl⟩ := h
      simp [hd]
    · simp only [cutFirst?, if_neg hd, Option.map_eq_some_iff, Prod.mk.injEq, Prod.exists] at h
      obtain ⟨b, a, hcut, rfl, rfl⟩ := h
      obtain ⟨rfl, hb⟩ := ih hcut
      exact ⟨rfl, by simp [hb, Ne.symm hd]⟩

theorem cutFirst?_eq_none {c : Char} {text : List Char} :
    cutFirst? c text = none ↔ c ∉ text := by
  induction text with
  | nil => simp [cutFirst?]
  | cons d rest ih =>
    by_cases hd : d = c
    · simp [cutFirst?, hd]
    · simp [cutFirst?, hd, ih, Ne.symm hd]

theorem cutLast?_eq_none {c : Char} {text : List Char} :
    cutLast? c text = none ↔ c ∉ text := by
  induction text with
  | nil => simp [cutLast?]
  | cons d rest ih =>
    simp only [cutLast?]
    cases hcut : cutLast? c rest with
    | none =>
      have := ih.1 hcut
      by_cases hd : d = c
      · simp [hd]
      · simp [hd, this, Ne.symm hd]
    | some cut =>
      have hmem : c ∈ rest := by
        by_cases hmem : c ∈ rest
        · exact hmem
        · rw [ih.2 hmem] at hcut; cases hcut
      simp [hmem]

theorem cutLast?_eq_some {c : Char} {text before after : List Char}
    (h : cutLast? c text = some (before, after)) :
    text = before ++ c :: after ∧ c ∉ after := by
  induction text generalizing before with
  | nil => simp [cutLast?] at h
  | cons d rest ih =>
    simp only [cutLast?] at h
    cases hcut : cutLast? c rest with
    | none =>
      rw [hcut] at h
      by_cases hd : d = c
      · simp [hd] at h
        have hmem := cutLast?_eq_none.1 hcut
        simp [hd, ← h.1, ← h.2, hmem]
      · simp [hd] at h
    | some cut =>
      obtain ⟨b, a⟩ := cut
      rw [hcut] at h
      simp only [Option.some.injEq, Prod.mk.injEq] at h
      obtain ⟨rfl, rfl⟩ := h
      obtain ⟨rfl, ha⟩ := ih hcut
      exact ⟨rfl, ha⟩

theorem afterLead?_eq_some {lead text after : List Char} :
    afterLead? lead text = some after ↔ text = lead ++ after := by
  induction lead generalizing text with
  | nil => simp [afterLead?]
  | cons c lead ih =>
    cases text with
    | nil => simp [afterLead?]
    | cons d text =>
      by_cases hc : c = d
      · simp [afterLead?, hc, ih]
      · simp [afterLead?, hc, Ne.symm hc]

/-! ## Strings -/

/-- `s` without slashes at its ends. -/
def trimSlashes (s : String) : String := String.ofList (trim '/' s.toList)

/-- The text after the last slash; all of it when there is none. -/
def lastSegment (s : String) : String :=
  match cutLast? '/' s.toList with
  | some (_, after) => String.ofList after
  | none => s

/-- Whether `mark` occurs in `s`. -/
def occursIn (mark s : String) : Bool := hasMark mark.toList s.toList

/-- The pieces of `s` between the `c`s. -/
def split (c : Char) (s : String) : List String := (pieces c s.toList).map String.ofList

/-- `parts` with `separator` between them. -/
def join (separator : String) (parts : List String) : String := separator.intercalate parts

/-- Whether `s` starts with `lead`. -/
def startsWith (s lead : String) : Bool := lead.toList.isPrefixOf s.toList

/-- Whether `s` ends with `tail`. -/
def endsWith (s tail : String) : Bool := tail.toList.isSuffixOf s.toList

@[simp] theorem toList_trimSlashes (s : String) :
    (trimSlashes s).toList = trim '/' s.toList := by
  simp [trimSlashes]

/-! ## By bytes -/

/-- The text from a byte on; within a character, from the next one on. -/
def fromByte : Nat → List Char → List Char
  | _, [] => []
  | 0, text => text
  | place + 1, c :: rest => fromByte (place + 1 - c.utf8Size) rest

/-- The characters that end by a byte. -/
def upToByte : Nat → List Char → List Char
  | _, [] => []
  | place, c :: rest =>
      if c.utf8Size ≤ place then c :: upToByte (place - c.utf8Size) rest else []

/-! ## Classes of characters -/

/-- The blanks of text, as Unicode's `White_Space` property lists them. -/
def isBlank (c : Char) : Bool :=
  let n := c.toNat
  (9 ≤ n && n ≤ 13) || n == 32 || n == 0x85 || n == 0xA0 || n == 0x1680 ||
    (0x2000 ≤ n && n ≤ 0x200A) || n == 0x2028 || n == 0x2029 || n == 0x202F ||
    n == 0x205F || n == 0x3000

/-- The value of a hexadecimal digit. -/
def hexValue? (c : Char) : Option Nat :=
  if c.isDigit then some (c.toNat - 48)
  else if 'a' ≤ c ∧ c ≤ 'f' then some (c.toNat - 87)
  else if 'A' ≤ c ∧ c ≤ 'F' then some (c.toNat - 55)
  else none

/-- `s` without blanks at its ends. -/
def trimBlanks (s : String) : String :=
  String.ofList ((s.toList.dropWhile isBlank).reverse.dropWhile isBlank).reverse

/-- The ASCII letters in lower case; every other character is kept. -/
def lowerAscii (s : String) : String := String.ofList (s.toList.map Char.toLower)

end ArtifactStaging.Text
