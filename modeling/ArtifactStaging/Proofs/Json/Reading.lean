/-
# ArtifactStaging.Proofs.Json.Reading -- written JSON is read as what was written

Every reader is followed over the text that the printer writes, whatever stands after
it: a string up to its closing quote, a whole number up to where its numeral ends, the
items of an array and the members of an object up to the closing mark.

One line and many lines differ in blanks only.  A `Layout` says where these stand, and
arrays and objects are followed for any layout (`elements_array`, `members_object`); `line`
and `lines` are the two that the printer has.  What is made of an item is told by `Reads`,
and of members that are not kept as values, one by one, by `Gathers`.  The other way round,
what each member or element keeps a run through all of them keeps (`members_keeps`,
`elements_keeps`), whatever the text is.

A value is `Plain` at a depth if it holds whole numbers of 64 bits only and is nested no
deeper than a reader allows.  Written on many lines, a plain value is read as itself
(`valueWithin_pretty`).
-/
import ArtifactStaging.Proofs.Result
import ArtifactStaging.Proofs.Text.Digits

set_option autoImplicit false

namespace ArtifactStaging.Json

namespace Reader

variable {chars rest : List Char} {fuel level : Nat}

/-! ## Strings -/

theorem length_le_escape (chars : List Char) : chars.length ≤ (chars.flatMap escape).length := by
  induction chars with
  | nil => simp
  | cons c chars ih =>
      have : 0 < (escape c).length := by
        unfold escape
        repeat' split
        all_goals simp
      simp only [List.flatMap_cons, List.length_append, List.length_cons]
      omega

theorem hexValue?_hexDigit {n : Nat} (h : n < 16) : Text.hexValue? (hexDigit n) = some n := by
  decide +revert

/-- A control character is read out of its four digits. -/
theorem unicodeEscape_control {c : Char} (h : c.toNat < 32) (text : List Char) :
    unicodeEscape .kept
      ('0' :: '0' :: hexDigit (c.toNat / 16) :: hexDigit (c.toNat % 16) :: text) =
        .ok (c, text) := by
  have hzero : Text.hexValue? '0' = some 0 := by decide
  have hhigh := hexValue?_hexDigit (show c.toNat / 16 < 16 by omega)
  have hlow := hexValue?_hexDigit (show c.toNat % 16 < 16 by omega)
  have hunit : ((0 * 16 + 0) * 16 + c.toNat / 16) * 16 + c.toNat % 16 = c.toNat := by omega
  have hhalf : isLowHalf c.toNat = false ∧ isHighHalf c.toNat = false := by
    simp only [isLowHalf, isHighHalf, Bool.and_eq_false_iff, decide_eq_false_iff_not]
    omega
  simp only [unicodeEscape, hexUnit, hzero, hhigh, hlow, bind, Except.bind, hunit, hhalf.1,
    hhalf.2, if_false, Bool.false_eq_true, Char.ofNat_toNat]

/-- An escaped character is read as itself. -/
theorem stringBody_escape (c : Char) (text : List Char) :
    stringBody .kept (fuel + 1) (escape c ++ text) =
      (stringBody .kept fuel text).map fun (more, rest) => (c :: more, rest) := by
  by_cases hquote : c = '"'
  · subst hquote
    rfl
  by_cases hbackslash : c = '\\'
  · subst hbackslash
    rfl
  by_cases hletter : c = '\x08' ∨ c = '\t' ∨ c = '\n' ∨ c = '\x0c' ∨ c = '\r'
  · rcases hletter with rfl | rfl | rfl | rfl | rfl <;> rfl
  obtain ⟨h1, h2, h3, h4, h5⟩ : c ≠ '\x08' ∧ c ≠ '\t' ∧ c ≠ '\n' ∧ c ≠ '\x0c' ∧ c ≠ '\r' := by
    simpa [not_or] using hletter
  by_cases hcontrol : c.toNat < 32
  · simp only [escape, hquote, hbackslash, h1, h2, h3, h4, h5, hcontrol, if_true, if_false,
      List.cons_append, List.nil_append, stringBody, escapeBody, unicodeEscape_control hcontrol]
    rfl
  · simp only [escape, hquote, hbackslash, h1, h2, h3, h4, h5, hcontrol, if_false,
      List.cons_append, List.nil_append, stringBody]
    rfl

theorem stringBody_chars (h : chars.length < fuel) :
    stringBody .kept fuel (chars.flatMap escape ++ '"' :: rest) = .ok (chars, rest) := by
  induction chars generalizing fuel with
  | nil =>
      cases fuel with
      | zero => cases h
      | succ fuel => rfl
  | cons c chars ih =>
      cases fuel with
      | zero => cases h
      | succ fuel =>
          rw [List.flatMap_cons, List.append_assoc, stringBody_escape,
            ih (Nat.lt_of_succ_lt_succ h)]
          rfl

/-- A string that was written is read, up to its closing quote. -/
theorem string_escaped (s : String) (rest : List Char) :
    string .kept (s.toList.flatMap escape ++ '"' :: rest) = .ok (s, rest) := by
  have hlength := length_le_escape s.toList
  rw [string, stringBody_chars (by simp only [List.length_append]; omega)]
  simp [bind, Except.bind]

/-! ## Whole numbers -/

/-- No numeral goes on with this text. -/
def EndsNumeral (rest : List Char) : Prop :=
  ∀ c ∈ rest.head?, c.isDigit = false ∧ c ≠ '.' ∧ c ≠ 'e' ∧ c ≠ 'E'

/-- A numeral is read up to where it ends, as the number that it stands for. -/
theorem numeral_toDigits {n : Nat} {negative : Bool} {value : Json} (ends : EndsNumeral rest)
    (h : wholeNumber negative (Nat.toDigits 10 n) = some value) :
    numeral .kept negative (Nat.toDigits 10 n ++ rest) = .ok (value, rest) := by
  have digits : ∀ c ∈ Nat.toDigits 10 n, c.isDigit = true := fun c => Text.isDigit_of_mem_toDigits
  have stops : ∀ c ∈ rest.head?, c.isDigit = false := fun c hc => (ends c hc).1
  simp only [numeral, Text.takeWhile_append digits stops, Text.dropWhile_append digits stops]
  split
  · next hempty => exact absurd hempty Nat.toDigits_ne_nil
  · next hzero => exact absurd hzero Text.toDigits_ne_zero_cons
  · split
    · exact absurd rfl (ends '.' rfl).2.1
    · exact absurd rfl (ends 'e' rfl).2.2.1
    · exact absurd rfl (ends 'E' rfl).2.2.2
    · simp only [h]

theorem scalar?_digit {c : Char} (hc : c.isDigit = true) (text : List Char) :
    scalar? .kept (c :: text) = some (numeral .kept false (c :: text)) := by
  have apart : c ≠ 'n' ∧ c ≠ 't' ∧ c ≠ 'f' ∧ c ≠ '-' ∧ c ≠ '"' := by
    refine ⟨?_, ?_, ?_, ?_, ?_⟩ <;> rintro rfl <;> cases hc
  obtain ⟨hn, ht, hf, hminus, hquote⟩ := apart
  unfold scalar?
  split
  all_goals
    next heq =>
    cases heq <;>
      first
      | contradiction
      | exact if_pos hc

theorem scalar?_decimal {n : Int} (least : Width.leastSigned64 ≤ n) (most : n ≤ Width.most64)
    (ends : EndsNumeral rest) : scalar? .kept (decimal n ++ rest) = some (.ok (.int n, rest)) := by
  unfold decimal
  split
  · next hnegative =>
    have hvalue : wholeNumber true (Nat.toDigits 10 n.natAbs) = some (.int n) := by
      simp only [wholeNumber, digitsValue_toDigits, if_true]
      rw [if_neg (by omega)]
      congr 2
      omega
    exact congrArg some (numeral_toDigits ends hvalue)
  · next hpositive =>
    have hvalue : wholeNumber false (Nat.toDigits 10 n.natAbs) = some (.int n) := by
      simp only [wholeNumber, digitsValue_toDigits, Bool.false_eq_true, if_false]
      rw [if_pos (by omega)]
      congr 2
      omega
    have hread := numeral_toDigits ends hvalue
    cases hdigits : Nat.toDigits 10 n.natAbs with
    | nil => exact absurd hdigits Nat.toDigits_ne_nil
    | cons c digits =>
        have hc : c.isDigit = true :=
          Text.isDigit_of_mem_toDigits (by rw [hdigits]; exact List.mem_cons_self)
        rw [hdigits] at hread
        rw [List.cons_append] at hread ⊢
        rw [scalar?_digit hc, hread]

/-! ## Blanks and marks -/

theorem skipBlanks_cons {c : Char} (h : isBlank c = false) (text : List Char) :
    skipBlanks (c :: text) = c :: text :=
  List.dropWhile_cons_of_neg (by simp [h])

theorem skipBlanks_append {blanks : List Char} (blank : ∀ c ∈ blanks, isBlank c = true)
    (text : List Char) : skipBlanks (blanks ++ text) = skipBlanks text :=
  List.dropWhile_append_of_pos blank

theorem isBlank_newline (level : Nat) : ∀ c ∈ newline level, isBlank c = true := by
  intro c hc
  rcases List.mem_cons.1 hc with rfl | hc
  · rfl
  · rw [List.eq_of_mem_replicate hc]
    rfl

/-- The first character of a text is none that ends a line or an array. -/
def StartsValue (text : List Char) : Prop :=
  ∃ c rest, text = c :: rest ∧ isBlank c = false ∧ c ≠ ']'

theorem isBlank_digit {c : Char} (h : c.isDigit = true) : isBlank c = false := by
  simp only [isBlank, Bool.or_eq_false_iff, beq_eq_false_iff_ne]
  refine ⟨⟨⟨?_, ?_⟩, ?_⟩, ?_⟩ <;> rintro rfl <;> cases h

/-- A numeral starts with a character that starts nothing else. -/
theorem decimal_cons (n : Int) :
    ∃ c text, decimal n = c :: text ∧ isBlank c = false ∧ c ≠ '[' ∧ c ≠ ']' ∧ c ≠ '\x7b' := by
  unfold decimal
  split
  · exact ⟨'-', _, rfl, by decide⟩
  · cases hdigits : Nat.toDigits 10 n.natAbs with
    | nil => exact absurd hdigits Nat.toDigits_ne_nil
    | cons c digits =>
        have hc : c.isDigit = true :=
          Text.isDigit_of_mem_toDigits (by rw [hdigits]; exact List.mem_cons_self)
        refine ⟨c, digits, rfl, isBlank_digit hc, ?_, ?_, ?_⟩ <;> rintro rfl <;> cases hc

theorem endsNumeral_mark {c : Char} (h : c = ',' ∨ c = ']' ∨ c = '\x7d') (text : List Char) :
    EndsNumeral (c :: text) := by
  rintro d ⟨⟩
  rcases h with rfl | rfl | rfl <;> decide

/-- No numeral goes on with a blank. -/
theorem endsNumeral_append {blanks : List Char} (blank : ∀ c ∈ blanks, isBlank c = true)
    (ends : EndsNumeral rest) : EndsNumeral (blanks ++ rest) := by
  cases blanks with
  | nil => exact ends
  | cons c blanks =>
      rintro d ⟨⟩
      have hc := blank c List.mem_cons_self
      simp only [isBlank, Bool.or_eq_true, beq_iff_eq] at hc
      obtain ((rfl | rfl) | rfl) | rfl := hc <;> decide

end Reader

/-! ## Layouts -/

/-- How values are set in arrays and objects: what is written of a value, and the blanks before
each item or member, before the closing mark, and between a colon and a value. -/
structure Layout where
  write : Json → List Char
  before : List Char
  after : List Char
  gap : List Char
  blank_before : ∀ c ∈ before, Reader.isBlank c = true
  blank_after : ∀ c ∈ after, Reader.isBlank c = true
  blank_gap : ∀ c ∈ gap, Reader.isBlank c = true

namespace Layout

variable (layout : Layout)

/-- The items after the first, and the closing bracket. -/
def moreItems : List Json → List Char
  | [] => layout.after ++ [']']
  | item :: items => ',' :: (layout.before ++ layout.write item ++ moreItems items)

/-- An array. -/
def array : List Json → List Char
  | [] => ['[', ']']
  | item :: items => '[' :: (layout.before ++ layout.write item ++ layout.moreItems items)

/-- A member. -/
def member (name : String) (value : Json) : List Char :=
  layout.before ++ quoted name ++ ':' :: (layout.gap ++ layout.write value)

/-- The members after the first, and the closing brace. -/
def moreMembers : Members → List Char
  | [] => layout.after ++ ['\x7d']
  | (name, value) :: members => ',' :: (layout.member name value ++ moreMembers members)

/-- An object. -/
def object : Members → List Char
  | [] => ['\x7b', '\x7d']
  | (name, value) :: members => '\x7b' :: (layout.member name value ++ layout.moreMembers members)

/-- Everything on one line. -/
def line : Layout := ⟨compactChars, [], [], [], by simp, by simp, by simp⟩

/-- Items and members on lines of their own, a level deeper than what encloses them. -/
def lines (level : Nat) : Layout where
  write := prettyChars (level + 1)
  before := newline (level + 1)
  after := newline level
  gap := [' ']
  blank_before := Reader.isBlank_newline _
  blank_after := Reader.isBlank_newline _
  blank_gap := by simp [Reader.isBlank]

theorem compactChars_arr (items : List Json) : compactChars (.arr items) = line.array items := by
  cases items with
  | nil => rfl
  | cons item items =>
      rw [compactChars, array]
      refine congrArg ('[' :: ·) ?_
      induction items generalizing item with
      | nil => rfl
      | cons other items ih =>
          rw [compactItems, ih]
          · rfl
          · exact List.cons_ne_nil _ _

theorem compactChars_obj (members : Members) :
    compactChars (.obj members) = line.object members := by
  cases members with
  | nil => rfl
  | cons member members =>
      rw [compactChars, object]
      refine congrArg ('\x7b' :: ·) ?_
      induction members generalizing member with
      | nil => simp [compactMembers, moreMembers, Layout.member, line]
      | cons other members ih =>
          rw [compactMembers, ih]
          · simp [moreMembers, Layout.member, line]
          · exact List.cons_ne_nil _ _

theorem prettyChars_arr (level : Nat) (items : List Json) :
    prettyChars level (.arr items) = (lines level).array items := by
  have more (items : List Json) : prettyItems level items = (lines level).moreItems items := by
    induction items with
    | nil => rfl
    | cons item items ih => rw [prettyItems, ih]; rfl
  cases items with
  | nil => rfl
  | cons item items => rw [prettyChars, more]; rfl

theorem prettyChars_obj (level : Nat) (members : Members) :
    prettyChars level (.obj members) = (lines level).object members := by
  have more (members : Members) :
      prettyMembers level members = (lines level).moreMembers members := by
    induction members with
    | nil => rfl
    | cons member members ih => simp [prettyMembers, ih, moreMembers, Layout.member, lines]
  cases members with
  | nil => rfl
  | cons member members => simp [prettyChars, more, object, Layout.member, lines]

end Layout

namespace Reader

variable {layout : Layout} {chars rest : List Char} {fuel level : Nat}

theorem close_mark (layout : Layout) {mark : Char} (h : isBlank mark = false) (text : List Char) :
    close mark (layout.after ++ mark :: text) = .ok text := by
  rw [close, skipBlanks_append layout.blank_after, skipBlanks_cons h]
  exact if_pos rfl

/-! ## Items -/

section

variable {α : Type} {read : Reader α} {values : List Json} {value : Json} {items : List α}
  {item : α}

/-- What a reader makes of a value that was written, whatever stands after it, unless a numeral
goes on with that. -/
structure Reads (layout : Layout) (read : Reader α) (value : Json) (item : α) : Prop where
  starts : StartsValue (layout.write value)
  reads : ∀ rest, EndsNumeral rest → read (layout.write value ++ rest) = .ok (item, rest)

/-- Read an item and put it before those that are done. -/
def collect (read : Reader α) (items : List α) : Reader (List α) := fun text => do
  let (item, rest) ← read text
  .ok (item :: items, rest)

theorem endsNumeral_moreItems (layout : Layout) (values : List Json) (rest : List Char) :
    EndsNumeral (layout.moreItems values ++ rest) := by
  cases values with
  | nil =>
      rw [Layout.moreItems, List.append_assoc]
      exact endsNumeral_append layout.blank_after (endsNumeral_mark (.inr (.inl rfl)) _)
  | cons value values => exact endsNumeral_mark (.inl rfl) _

theorem nextElement_close (layout : Layout) (text : List Char) :
    nextElement false (layout.after ++ ']' :: text) = .ok none := by
  rw [nextElement, skipBlanks_append layout.blank_after, skipBlanks_cons (by decide)]
  rfl

theorem nextElement_first {text : List Char} (starts : StartsValue text) (layout : Layout)
    (rest : List Char) :
    nextElement true (layout.before ++ (text ++ rest)) = .ok (some (text ++ rest)) := by
  obtain ⟨c, tail, rfl, blank, bracket⟩ := starts
  rw [nextElement, skipBlanks_append layout.blank_before, List.cons_append, skipBlanks_cons blank]
  simp

/-- After a comma, whatever starts a value is next. -/
theorem nextElement_comma {text : List Char} (starts : StartsValue text) (layout : Layout)
    (rest : List Char) :
    nextElement false (',' :: (layout.before ++ (text ++ rest))) = .ok (some (text ++ rest)) := by
  obtain ⟨c, tail, rfl, blank, bracket⟩ := starts
  rw [nextElement, skipBlanks_cons (by decide)]
  simp [skipBlanks_append layout.blank_before, skipBlanks_cons blank, bracket]

theorem collect_write (done : List α) (reads : Reads layout read value item)
    (ends : EndsNumeral rest) :
    collect read done (layout.write value ++ rest) = .ok (item :: done, rest) := by
  rw [collect, reads.reads rest ends]
  rfl

/-- The items after the first are read up to the closing bracket. -/
theorem elements_moreItems {done : List α} (reads : List.Forall₂ (Reads layout read) values items)
    (h : values.length < fuel) :
    elements (collect read) fuel false done (layout.moreItems values ++ rest) =
      .ok (items.reverse ++ done, layout.after ++ ']' :: rest) := by
  induction reads generalizing fuel done with
  | nil =>
      cases fuel with
      | zero => cases h
      | succ fuel =>
          simp only [Layout.moreItems, List.append_assoc, List.singleton_append, elements,
            nextElement_close, bind, Except.bind, List.reverse_nil, List.nil_append]
  | @cons value item values items first others ih =>
      cases fuel with
      | zero => cases h
      | succ fuel =>
          have hitem := collect_write done first (endsNumeral_moreItems layout values rest)
          simp only [Layout.moreItems, List.cons_append, List.append_assoc, elements,
            nextElement_comma first.starts, hitem, bind, Except.bind,
            ih (Nat.lt_of_succ_lt_succ h), List.reverse_cons, List.nil_append]

theorem length_lt_moreItems (layout : Layout) (values : List Json) :
    values.length < (layout.moreItems values).length := by
  induction values with
  | nil => simp [Layout.moreItems]
  | cons value values ih =>
      simp only [Layout.moreItems, List.length_cons, List.length_append]
      omega

/-- An array that was opened is read up to its closing bracket. -/
theorem elements_array (reads : List.Forall₂ (Reads layout read) values items)
    (rest : List Char) :
    ∃ text after, layout.array values ++ rest = '[' :: text ∧
      elements (collect read) (text.length + 1) true [] text = .ok (items.reverse, after) ∧
      close ']' after = .ok rest := by
  cases reads with
  | nil => exact ⟨']' :: rest, _, rfl, rfl, rfl⟩
  | @cons value item values items first others =>
      have hlength := length_lt_moreItems layout values
      have hitem := collect_write [] first (endsNumeral_moreItems layout values rest)
      refine ⟨layout.before ++ (layout.write value ++ (layout.moreItems values ++ rest)), _,
        by simp [Layout.array], ?_, close_mark layout (by decide) rest⟩
      simp only [elements, nextElement_first first.starts, hitem, bind, Except.bind]
      rw [elements_moreItems others (by simp only [List.length_append]; omega), List.reverse_cons]

end

/-! ## Members -/

section

variable {σ : Type} {onMember : String → σ → Reader σ} {written : Members} {name : String}
  {value : Json} {s t : σ}

/-- What a reader makes of members that were written, one after the other. -/
inductive Gathers (onMember : String → σ → Reader σ) (layout : Layout) : Members → σ → σ → Prop
  | nil (s : σ) : Gathers onMember layout [] s s
  | cons {name : String} {value : Json} {written : Members} {s t u : σ}
      (first : ∀ rest, EndsNumeral rest →
        onMember name s (':' :: (layout.gap ++ (layout.write value ++ rest))) = .ok (t, rest))
      (others : Gathers onMember layout written t u) :
      Gathers onMember layout ((name, value) :: written) s u

theorem endsNumeral_moreMembers (layout : Layout) (written : Members) (rest : List Char) :
    EndsNumeral (layout.moreMembers written ++ rest) := by
  cases written with
  | nil =>
      rw [Layout.moreMembers, List.append_assoc]
      exact endsNumeral_append layout.blank_after (endsNumeral_mark (.inr (.inr rfl)) _)
  | cons member written => exact endsNumeral_mark (.inl rfl) _

theorem nextMember_close (layout : Layout) (text : List Char) :
    nextMember false (layout.after ++ '\x7d' :: text) = .ok none := by
  rw [nextMember, skipBlanks_append layout.blank_after, skipBlanks_cons (by decide)]
  rfl

theorem nextMember_first (layout : Layout) (text : List Char) :
    nextMember true (layout.before ++ '"' :: text) = .ok (some text) := by
  rw [nextMember, skipBlanks_append layout.blank_before, skipBlanks_cons (by decide)]
  rfl

theorem nextMember_comma (layout : Layout) (text : List Char) :
    nextMember false (',' :: (layout.before ++ '"' :: text)) = .ok (some text) := by
  rw [nextMember, skipBlanks_cons (by decide)]
  simp [skipBlanks_append layout.blank_before, skipBlanks_cons (show isBlank '"' = false by decide)]

/-- The members after the first are read up to the closing brace. -/
theorem members_moreMembers (gathers : Gathers onMember layout written s t)
    (h : written.length < fuel) :
    members .kept onMember fuel false s (layout.moreMembers written ++ rest) =
      .ok (t, layout.after ++ '\x7d' :: rest) := by
  induction gathers generalizing fuel with
  | nil s =>
      cases fuel with
      | zero => cases h
      | succ fuel =>
          simp only [Layout.moreMembers, List.append_assoc, List.singleton_append, members,
            nextMember_close, bind, Except.bind]
  | @cons name value written s t u first others ih =>
      cases fuel with
      | zero => cases h
      | succ fuel =>
          have hvalue := first _ (endsNumeral_moreMembers layout written rest)
          simp only [Layout.moreMembers, Layout.member, quoted, List.cons_append, List.append_assoc,
            List.nil_append, members, nextMember_comma, bind, Except.bind, string_escaped,
            hvalue, ih (Nat.lt_of_succ_lt_succ h)]

theorem length_lt_moreMembers (layout : Layout) (written : Members) :
    written.length < (layout.moreMembers written).length := by
  induction written with
  | nil => simp [Layout.moreMembers]
  | cons member written ih =>
      simp only [Layout.moreMembers, List.length_cons, List.length_append]
      omega

/-- An object that was opened is gathered up to its closing brace. -/
theorem members_object (gathers : Gathers onMember layout written s t) (rest : List Char) :
    ∃ text after, layout.object written ++ rest = '\x7b' :: text ∧
      members .kept onMember (text.length + 1) true s text = .ok (t, after) ∧
      close '\x7d' after = .ok rest := by
  cases gathers with
  | nil => exact ⟨'\x7d' :: rest, _, rfl, rfl, rfl⟩
  | @cons name value written s t u first others =>
      have hlength := length_lt_moreMembers layout written
      have hvalue := first _ (endsNumeral_moreMembers layout written rest)
      refine ⟨layout.before ++ '"' :: (name.toList.flatMap escape ++ '"' :: ':' ::
        (layout.gap ++ (layout.write value ++ (layout.moreMembers written ++ rest)))), _,
        by simp [Layout.object, Layout.member, quoted], ?_, close_mark layout (by decide) rest⟩
      simp only [members, nextMember_first, bind, Except.bind, string_escaped, hvalue]
      exact members_moreMembers others (by simp only [List.length_append, List.length_cons]; omega)

/-! ### What a run keeps -/

variable {α : Type} {keeps : σ → Prop} {care : Care} {first : Bool} {text : List Char}

/-- What every member keeps, running through an object keeps. -/
theorem members_keeps
    (step : ∀ name s text t rest, keeps s → onMember name s text = .ok (t, rest) → keeps t)
    (start : keeps s) (run : members care onMember fuel first s text = .ok (t, rest)) :
    keeps t := by
  induction fuel generalizing first s text with
  | zero => cases run
  | succ fuel ih =>
      obtain ⟨next, -, run⟩ := Except.bind_ok_iff.1 run
      cases next with
      | none =>
          cases run
          exact start
      | some more =>
          obtain ⟨⟨name, behind⟩, -, run⟩ := Except.bind_ok_iff.1 run
          obtain ⟨⟨u, left⟩, onward, run⟩ := Except.bind_ok_iff.1 run
          exact ih (step name s behind u left start onward) run

/-- What every element keeps, running through an array keeps. -/
theorem elements_keeps {onElement : σ → Reader σ}
    (step : ∀ s text t rest, keeps s → onElement s text = .ok (t, rest) → keeps t)
    (start : keeps s) (run : elements onElement fuel first s text = .ok (t, rest)) : keeps t := by
  induction fuel generalizing first s text with
  | zero => cases run
  | succ fuel ih =>
      obtain ⟨next, -, run⟩ := Except.bind_ok_iff.1 run
      cases next with
      | none =>
          cases run
          exact start
      | some more =>
          obtain ⟨⟨u, left⟩, onward, run⟩ := Except.bind_ok_iff.1 run
          exact ih (step s more u left start onward) run

end

end Reader

/-! ## Values -/

/-- Whole numbers of 64 bits only, and arrays and objects nested less deep than `depth`. -/
inductive Plain : Nat → Json → Prop
  | null (depth : Nat) : Plain depth .null
  | bool (depth : Nat) (value : Bool) : Plain depth (.bool value)
  | int (depth : Nat) {value : Int} (least : Width.leastSigned64 ≤ value)
      (most : value ≤ Width.most64) : Plain depth (.int value)
  | str (depth : Nat) (value : String) : Plain depth (.str value)
  | arr {depth : Nat} {items : List Json} (plain : ∀ item ∈ items, Plain (depth + 1) item) :
      Plain (depth + 2) (.arr items)
  | obj {depth : Nat} {members : Members}
      (plain : ∀ member ∈ members, Plain (depth + 1) member.2) : Plain (depth + 2) (.obj members)

namespace Reader

variable {layout : Layout} {chars rest : List Char} {fuel depth level : Nat} {value : Json}

/-- A plain value starts on its line with a character of its own. -/
theorem startsValue_pretty (plain : Plain depth value) (level : Nat) :
    StartsValue (prettyChars level value) := by
  cases plain with
  | null => exact ⟨'n', _, rfl, rfl, by decide⟩
  | bool depth value => cases value <;> exact ⟨_, _, rfl, rfl, by decide⟩
  | @int depth n =>
      obtain ⟨c, text, htext, blank, -, bracket, -⟩ := decimal_cons n
      exact ⟨c, text, htext, blank, bracket⟩
  | str => exact ⟨'"', _, rfl, rfl, by decide⟩
  | @arr depth items => cases items <;> exact ⟨'[', _, rfl, rfl, by decide⟩
  | @obj depth members => cases members <;> exact ⟨'\x7b', _, rfl, rfl, by decide⟩

theorem valueWithin_scalar {c : Char} (blank : isBlank c = false) (bracket : c ≠ '[')
    (brace : c ≠ '\x7b') (text : List Char) :
    valueWithin .kept (fuel + 1) depth (c :: text) =
      (scalar? .kept (c :: text)).getD (.error .malformed) := by
  rw [valueWithin, skipBlanks_cons blank]
  simp

theorem valueWithin_decimal {n : Int} (least : Width.leastSigned64 ≤ n)
    (most : n ≤ Width.most64) (ends : EndsNumeral rest) :
    valueWithin .kept (fuel + 1) depth (decimal n ++ rest) = .ok (.int n, rest) := by
  have hread := scalar?_decimal least most ends
  obtain ⟨c, text, htext, blank, bracket, -, brace⟩ := decimal_cons n
  rw [htext, List.cons_append] at hread ⊢
  rw [valueWithin_scalar blank bracket brace, hread]
  rfl

/-! ### Arrays and objects -/

theorem valueWithin_append {blanks : List Char} (blank : ∀ c ∈ blanks, isBlank c = true)
    (text : List Char) :
    valueWithin .kept fuel depth (blanks ++ text) = valueWithin .kept fuel depth text := by
  cases fuel with
  | zero => rfl
  | succ fuel => rw [valueWithin, valueWithin, skipBlanks_append blank]

theorem valueWithin_bracket (text : List Char) :
    valueWithin .kept (fuel + 1) (depth + 2) ('[' :: text) = (do
      let (items, rest) ← elements (collect (valueWithin .kept fuel (depth + 1)))
        (text.length + 1) true [] text
      let rest ← close ']' rest
      .ok (.arr items.reverse, rest)) := by
  rw [valueWithin, skipBlanks_cons (by decide)]
  rfl

/-- Read the value of a member and put it before those that are done. -/
def gather (read : Reader Json) (name : String) (done : Members) : Reader Members := fun text => do
  let rest ← colon text
  let (item, rest) ← read rest
  .ok ((name, item) :: done, rest)

theorem valueWithin_brace (text : List Char) :
    valueWithin .kept (fuel + 1) (depth + 2) ('\x7b' :: text) = (do
      let (done, rest) ← members .kept (gather (valueWithin .kept fuel (depth + 1)))
        (text.length + 1) true [] text
      let rest ← close '\x7d' rest
      .ok (.obj done.reverse, rest)) := by
  rw [valueWithin, skipBlanks_cons (by decide)]
  rfl

theorem colon_mark (text : List Char) : colon (':' :: text) = .ok text := by
  rw [colon, skipBlanks_cons (by decide)]
  rfl

/-- Members whose values are read as themselves are gathered as they are. -/
theorem gathers_gather {read : Reader Json} (skips : ∀ text, read (layout.gap ++ text) = read text)
    {written : Members} (reads : ∀ member ∈ written, Reads layout read member.2 member.2)
    (done : Members) : Gathers (gather read) layout written done (written.reverse ++ done) := by
  induction written generalizing done with
  | nil => exact .nil done
  | cons member written ih =>
      obtain ⟨first, others⟩ := List.forall_mem_cons.1 reads
      have others := ih others (member :: done)
      rw [List.reverse_cons, List.append_assoc]
      refine .cons (fun rest ends => ?_) others
      rw [gather, colon_mark]
      simp only [bind, Except.bind, skips, first.reads rest ends]

/-- An item is written shorter than its array. -/
theorem length_lt_array {items : List Json} {item : Json} (h : item ∈ items) (layout : Layout) :
    (layout.write item).length < (layout.array items).length := by
  have more {items : List Json} (h : item ∈ items) :
      (layout.write item).length < (layout.moreItems items).length := by
    induction items with
    | nil => cases h
    | cons other items ih =>
        simp only [Layout.moreItems, List.length_cons, List.length_append]
        rcases List.mem_cons.1 h with rfl | h
        · omega
        · have := ih h
          omega
  cases items with
  | nil => cases h
  | cons other items => exact more h

/-- The value of a member is written shorter than its object. -/
theorem length_lt_object {members : Members} {member : String × Json} (h : member ∈ members)
    (layout : Layout) : (layout.write member.2).length < (layout.object members).length := by
  have more {members : Members} (h : member ∈ members) :
      (layout.write member.2).length < (layout.moreMembers members).length := by
    induction members with
    | nil => cases h
    | cons other members ih =>
        simp only [Layout.moreMembers, Layout.member, List.length_cons, List.length_append]
        rcases List.mem_cons.1 h with rfl | h
        · omega
        · have := ih h
          omega
  cases members with
  | nil => cases h
  | cons other members => exact more h

/-- An array is read as itself if its items are. -/
theorem valueWithin_items {items : List Json}
    (reads : ∀ item ∈ items, Reads layout (valueWithin .kept fuel (depth + 1)) item item) :
    valueWithin .kept (fuel + 1) (depth + 2) (layout.array items ++ rest) =
      .ok (.arr items, rest) := by
  obtain ⟨text, after, htext, helements, hclose⟩ :=
    elements_array (List.forall₂_same.2 reads) rest
  rw [htext, valueWithin_bracket, helements]
  simp only [bind, Except.bind, hclose, List.reverse_reverse]

/-- An object is read as itself if the values of its members are. -/
theorem valueWithin_members {written : Members}
    (reads : ∀ member ∈ written,
      Reads layout (valueWithin .kept fuel (depth + 1)) member.2 member.2) :
    valueWithin .kept (fuel + 1) (depth + 2) (layout.object written ++ rest) =
      .ok (.obj written, rest) := by
  have gathers := gathers_gather (valueWithin_append layout.blank_gap) reads []
  obtain ⟨text, after, htext, hmembers, hclose⟩ := members_object gathers rest
  rw [htext, valueWithin_brace, hmembers]
  simp only [bind, Except.bind, hclose, List.append_nil, List.reverse_reverse]

/-- **A plain value is read as itself**, whatever stands after it, unless a numeral goes on
with that. -/
theorem valueWithin_pretty (plain : Plain depth value) (ends : EndsNumeral rest)
    (h : (prettyChars level value).length < fuel) :
    valueWithin .kept fuel depth (prettyChars level value ++ rest) = .ok (value, rest) := by
  obtain ⟨fuel, rfl⟩ : ∃ more, fuel = more + 1 := ⟨fuel - 1, by omega⟩
  induction plain generalizing fuel level rest with
  | null depth =>
      exact valueWithin_scalar (by decide) (by decide) (by decide) _
  | bool depth value =>
      cases value <;> exact valueWithin_scalar (by decide) (by decide) (by decide) _
  | int depth least most => exact valueWithin_decimal least most ends
  | str depth value =>
      have htext : prettyChars level (.str value) ++ rest =
          '"' :: (value.toList.flatMap escape ++ '"' :: rest) := by
        simp [prettyChars, compactChars, quoted]
      rw [htext, valueWithin_scalar (by decide) (by decide) (by decide), scalar?, string_escaped]
      rfl
  | @arr depth items plain ih =>
      rw [Layout.prettyChars_arr] at h ⊢
      refine valueWithin_items fun item hitem => ⟨startsValue_pretty (plain item hitem) _, ?_⟩
      intro rest ends
      have hlength : (prettyChars (level + 1) item).length < _ :=
        length_lt_array hitem (Layout.lines level)
      obtain ⟨fuel, rfl⟩ : ∃ more, fuel = more + 1 := ⟨fuel - 1, by omega⟩
      exact ih item hitem ends _ (by omega)
  | @obj depth members plain ih =>
      rw [Layout.prettyChars_obj] at h ⊢
      refine valueWithin_members fun member hmember =>
        ⟨startsValue_pretty (plain member hmember) _, ?_⟩
      intro rest ends
      have hlength : (prettyChars (level + 1) member.2).length < _ :=
        length_lt_object hmember (Layout.lines level)
      obtain ⟨fuel, rfl⟩ : ∃ more, fuel = more + 1 := ⟨fuel - 1, by omega⟩
      exact ih member hmember ends _ (by omega)

theorem value_pretty (plain : Plain depth value) (ends : EndsNumeral rest) :
    Reader.value .kept depth (' ' :: (prettyChars level value ++ rest)) = .ok (value, rest) := by
  rw [Reader.value]
  refine (valueWithin_append (Layout.lines level).blank_gap _).trans ?_
  exact valueWithin_pretty plain ends (by simp only [List.length_cons, List.length_append]; omega)

/-! ## Values of one shape -/

theorem textField_quoted (layout : Layout) (s : String) (rest : List Char) :
    textField (layout.gap ++ (quoted s ++ rest)) = .ok (s, rest) := by
  have htext : quoted s ++ rest = '"' :: (s.toList.flatMap escape ++ '"' :: rest) := by
    simp [quoted]
  rw [htext, textField, skipBlanks_append layout.blank_gap, skipBlanks_cons (by decide)]
  exact string_escaped s rest

theorem wholeField_decimal (layout : Layout) {n least most : Int} (hleast : least ≤ n)
    (hmost : n ≤ most) (low : Width.leastSigned64 ≤ n) (high : n ≤ Width.most64)
    (ends : EndsNumeral rest) :
    wholeField least most (layout.gap ++ (decimal n ++ rest)) = .ok (n, rest) := by
  have hread := scalar?_decimal low high ends
  obtain ⟨c, text, htext, blank, bracket, -, brace⟩ := decimal_cons n
  rw [htext, List.cons_append] at hread ⊢
  rw [wholeField, skipBlanks_append layout.blank_gap, skipBlanks_cons blank]
  split
  · next heq => cases heq
  · next heq => exact absurd (List.cons.inj heq).1 bracket
  · next heq => exact absurd (List.cons.inj heq).1 brace
  · rw [hread]
    exact if_pos ⟨hleast, hmost⟩

theorem freshMember_none {α : Type} (reader : Reader α) (text : List Char) :
    freshMember none reader (':' :: text) = reader text := by
  simp [freshMember, memberValue, colon_mark, bind, Except.bind]

/-- A value of another shape is never taken for one that was asked for. -/
theorem not_ok_wrongShape {α : Type} (text : List Char) (result : α) :
    wrongShape text ≠ .ok result := by
  unfold wrongShape
  split
  · simp
  · simp
  · split <;> simp

/-- A document is read if its value is and nothing but blanks is left. -/
theorem document_ok_iff {α : Type} {reader : Reader α} {line : String} {result : α} :
    document reader line = .ok result ↔
      ∃ rest, reader line.toList = .ok (result, rest) ∧ (skipBlanks rest).isEmpty = true := by
  simp only [document, Except.bind_ok_iff]
  constructor
  · rintro ⟨⟨found, rest⟩, hread, hend⟩
    dsimp only at hend
    split at hend
    · next blank =>
      cases hend
      exact ⟨rest, hread, blank⟩
    · cases hend
  · rintro ⟨rest, hread, blank⟩
    exact ⟨(result, rest), hread, if_pos blank⟩

end Reader

end ArtifactStaging.Json
