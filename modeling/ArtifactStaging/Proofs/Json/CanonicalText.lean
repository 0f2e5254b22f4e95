/-
# ArtifactStaging.Proofs.Json.CanonicalText -- canonical texts come apart in one way

A canonical text has no mark at its end to stop a reader: a numeral goes on as long as
there are characters of numerals.  But wherever a canonical text stands inside another,
a comma or a closing mark follows, and up to that the text can be told: no canonical
text is the beginning of another with a different text behind it (`separable`).

So what an array or an object is made of can be read off its text: the texts of the
items in order, and the names of the members with the texts of their values in the one
order that the text keeps.
-/
import ArtifactStaging.Json.Canonical
import ArtifactStaging.Proofs.Json.Reading
import ArtifactStaging.Proofs.Number.WholeNumbers
import ArtifactStaging.Proofs.Text.ByteOrder
import Mathlib.Data.List.Perm.Basic

set_option autoImplicit false

namespace ArtifactStaging.Json

variable {rest rest' : List Char}

/-! ## Numerals -/

/-- The characters of canonical numerals. -/
def isNumeralChar (c : Char) : Bool :=
  c.isDigit || c == '+' || c == '-' || c == '.' || c == 'e'

theorem isNumeralChar_of_isDigit {c : Char} (h : c.isDigit = true) : isNumeralChar c = true := by
  simp [isNumeralChar, h]

theorem isNumeralChar_zeros {count : Nat} :
    ∀ c ∈ Binary64.zeros count, isNumeralChar c = true := by
  intro c hc
  rw [List.eq_of_mem_replicate hc]
  decide

theorem isNumeralChar_toDigits {n : Nat} :
    ∀ c ∈ Nat.toDigits 10 n, isNumeralChar c = true :=
  fun _ hc => isNumeralChar_of_isDigit (Text.isDigit_of_mem_toDigits hc)

theorem isNumeralChar_layout {digits : List Char} {exponent : Int}
    (all : ∀ c ∈ digits, isNumeralChar c = true) :
    ∀ c ∈ Binary64.layout Binary64.canonicalStyle digits exponent, isNumeralChar c = true := by
  unfold Binary64.layout
  dsimp only
  split
  · split
    · exact List.forall_mem_append.2
        ⟨List.forall_mem_append.2 ⟨all, isNumeralChar_zeros⟩, by simp [Binary64.canonicalStyle]⟩
    · exact List.forall_mem_append.2 ⟨fun c hc => all c (List.mem_of_mem_take hc),
        List.forall_mem_cons.2 ⟨by decide, fun c hc => all c (List.mem_of_mem_drop hc)⟩⟩
  · split
    · exact List.forall_mem_cons.2 ⟨by decide, List.forall_mem_cons.2
        ⟨by decide, List.forall_mem_append.2 ⟨isNumeralChar_zeros, all⟩⟩⟩
    · have tail {negative : Prop} [Decidable negative] {power : Nat} :
          ∀ c ∈ (if negative then ['e', '-'] else ['e', '+']) ++ Nat.toDigits 10 power,
            isNumeralChar c = true := by
        refine List.forall_mem_append.2 ⟨?_, isNumeralChar_toDigits⟩
        split <;> simp [isNumeralChar]
      split
      · exact tail
      · exact List.forall_mem_cons.2 ⟨all _ List.mem_cons_self, tail⟩
      · obtain ⟨first, others⟩ := List.forall_mem_cons.1 all
        exact List.forall_mem_cons.2 ⟨first, List.forall_mem_cons.2
          ⟨by decide, List.forall_mem_append.2 ⟨others, tail⟩⟩⟩

theorem layout_ne_nil {style : Binary64.NumeralStyle} {digits : List Char} {exponent : Int}
    (h : digits ≠ []) : Binary64.layout style digits exponent ≠ [] := by
  unfold Binary64.layout
  dsimp only
  split
  · split
    · simp [h]
    · simp
  · split
    · simp
    · split <;> simp

/-- A numeral is a row of its characters, behind a minus sign if the number is negative. -/
theorem canonicalNumber_eq (x : Binary64) :
    ∃ body, body ≠ [] ∧ (∀ c ∈ body, isNumeralChar c = true) ∧
      (canonicalNumber x = body ∨ canonicalNumber x = '-' :: body) := by
  unfold canonicalNumber Binary64.render
  dsimp only
  split
  · refine ⟨['0'], by simp, by simp [isNumeralChar], ?_⟩
    split <;> simp [Binary64.canonicalStyle]
  · refine ⟨Binary64.layout Binary64.canonicalStyle (Nat.toDigits 10 x.shortest.1) x.shortest.2,
      layout_ne_nil Nat.toDigits_ne_nil, isNumeralChar_layout isNumeralChar_toDigits, ?_⟩
    split
    · exact .inr String.toList_ofList
    · exact .inl String.toList_ofList

theorem isNumeralChar_canonicalNumber (x : Binary64) :
    ∀ c ∈ canonicalNumber x, isNumeralChar c = true := by
  obtain ⟨body, -, all, htext | htext⟩ := canonicalNumber_eq x
  · rwa [htext]
  · rw [htext]
    exact List.forall_mem_cons.2 ⟨by decide, all⟩

theorem canonicalNumber_ne_nil (x : Binary64) : canonicalNumber x ≠ [] := by
  obtain ⟨body, inhabited, -, htext | htext⟩ := canonicalNumber_eq x
  · rwa [htext]
  · rw [htext]
    exact List.cons_ne_nil _ _

/-! ## What a text starts with -/

/-- The forms of values that their first character tells apart. -/
inductive Form where
  | null
  | truth (value : Bool)
  | number
  | string
  | array
  | object
deriving DecidableEq

/-- The form of a value. -/
def form : Json → Form
  | .null => .null
  | .bool value => .truth value
  | .int _ => .number
  | .float _ => .number
  | .str _ => .string
  | .arr _ => .array
  | .obj _ => .object

/-- The form of value that starts with a character. -/
def formOf (c : Char) : Form :=
  if isNumeralChar c then .number
  else if c = '"' then .string
  else if c = '[' then .array
  else if c = '\x7b' then .object
  else if c = 't' then .truth true
  else if c = 'f' then .truth false
  else .null

/-- A text starts with a character of its value's form, which never closes an array. -/
theorem canonicalChars_cons (value : Json) :
    ∃ c chars, value.canonicalChars = c :: chars ∧ formOf c = value.form ∧ c ≠ ']' := by
  have number (x : Binary64) :
      ∃ c chars, canonicalNumber x = c :: chars ∧ formOf c = .number ∧ c ≠ ']' := by
    obtain ⟨c, chars, htext⟩ := List.exists_cons_of_ne_nil (canonicalNumber_ne_nil x)
    have hc := isNumeralChar_canonicalNumber x c (htext ▸ List.mem_cons_self)
    refine ⟨c, chars, htext, if_pos hc, ?_⟩
    rintro rfl
    exact absurd hc (by decide)
  cases value with
  | int value => exact number _
  | float value => exact number _
  | null => exact ⟨_, _, rfl, by decide, by decide⟩
  | bool value => cases value <;> exact ⟨_, _, rfl, by decide, by decide⟩
  | str value => exact ⟨'"', _, rfl, rfl, by decide⟩
  | arr items => exact ⟨'[', _, rfl, rfl, by decide⟩
  | obj members => exact ⟨'\x7b', _, rfl, rfl, by decide⟩

theorem form_eq {value other : Json}
    (h : value.canonicalChars ++ rest = other.canonicalChars ++ rest') :
    value.form = other.form := by
  obtain ⟨c, chars, hvalue, hform, -⟩ := canonicalChars_cons value
  obtain ⟨d, chars', hother, hform', -⟩ := canonicalChars_cons other
  rw [hvalue, hother] at h
  rw [← hform, ← hform', (List.cons.inj h).1]

/-! ## Texts between marks -/

/-- What may follow a value inside another, and what may follow the whole text. -/
def Ends (rest : List Char) : Prop := ∀ c ∈ rest.head?, c = ',' ∨ c = ']' ∨ c = '\x7d'

theorem ends_cons {c : Char} (h : c = ',' ∨ c = ']' ∨ c = '\x7d') : Ends (c :: rest) := by
  rintro d ⟨⟩
  exact h

/-- The text is told from any canonical text with which it could begin. -/
def Separable (text : List Char) : Prop :=
  ∀ (other : Json) (rest rest' : List Char), Ends rest → Ends rest' →
    text ++ rest = other.canonicalChars ++ rest' → text = other.canonicalChars ∧ rest = rest'

section

variable {α : Type} {write : α → List Char} {close : Char} {items others : List α}

theorem commaSeparated_cons (text : List Char) (texts : List (List Char)) :
    commaSeparated (text :: texts) = text ++ texts.flatMap fun other => ',' :: other := by
  induction texts generalizing text with
  | nil => simp [commaSeparated]
  | cons other texts ih =>
      rw [commaSeparated, ih, List.flatMap_cons, List.cons_append]
      exact List.cons_ne_nil _ _

/-- The items behind the first one are told apart. -/
theorem commaTail_inj (hclose : close = ']' ∨ close = '\x7d')
    (separate : ∀ item ∈ items, ∀ other ∈ others, ∀ rest rest', Ends rest → Ends rest' →
      write item ++ rest = write other ++ rest' → item = other ∧ rest = rest')
    (h : (items.flatMap fun item => ',' :: write item) ++ close :: rest =
      (others.flatMap fun item => ',' :: write item) ++ close :: rest') :
    items = others ∧ rest = rest' := by
  have hcomma : close ≠ ',' := by
    rcases hclose with rfl | rfl <;> decide
  have ends (items : List α) (rest : List Char) :
      Ends ((items.flatMap fun item => ',' :: write item) ++ close :: rest) := by
    cases items with
    | nil => exact ends_cons (.inr hclose)
    | cons item items => exact ends_cons (.inl rfl)
  induction items generalizing others with
  | nil =>
      cases others with
      | nil => exact ⟨rfl, (List.cons.inj h).2⟩
      | cons other others => exact absurd (List.cons.inj h).1 hcomma
  | cons item items ih =>
      cases others with
      | nil => exact absurd (List.cons.inj h).1.symm hcomma
      | cons other others =>
          rw [List.flatMap_cons, List.flatMap_cons, List.append_assoc, List.append_assoc] at h
          obtain ⟨rfl, htail⟩ := separate item List.mem_cons_self other List.mem_cons_self _ _
            (ends items rest) (ends others rest') (List.cons.inj h).2
          obtain ⟨hitems, hrest⟩ := ih (fun item hitem other hother => separate item
            (List.mem_cons_of_mem _ hitem) other (List.mem_cons_of_mem _ hother)) htail
          exact ⟨congrArg _ hitems, hrest⟩

/-- Texts between commas are told apart if each of them is told from what could stand there. -/
theorem commaSeparated_inj (hclose : close = ']' ∨ close = '\x7d')
    (starts : ∀ item, item ∈ items ∨ item ∈ others →
      ∃ c chars, write item = c :: chars ∧ c ≠ close)
    (separate : ∀ item ∈ items, ∀ other ∈ others, ∀ rest rest', Ends rest → Ends rest' →
      write item ++ rest = write other ++ rest' → item = other ∧ rest = rest')
    (h : commaSeparated (items.map write) ++ close :: rest =
      commaSeparated (others.map write) ++ close :: rest') : items = others ∧ rest = rest' := by
  have apart {item : α} {texts : List (List Char)} {rest rest' : List Char}
      (hitem : item ∈ items ∨ item ∈ others) :
      close :: rest ≠ commaSeparated (write item :: texts) ++ rest' := by
    obtain ⟨c, chars, htext, hc⟩ := starts item hitem
    rw [commaSeparated_cons, htext]
    intro heq
    exact hc (List.cons.inj heq).1.symm
  cases items with
  | nil =>
      cases others with
      | nil => exact ⟨rfl, (List.cons.inj h).2⟩
      | cons other others => exact absurd h (apart (.inr List.mem_cons_self))
  | cons item items =>
      cases others with
      | nil => exact absurd h.symm (apart (.inl List.mem_cons_self))
      | cons other others =>
          -- With a comma before them, the first ones are items like the others.
          apply commaTail_inj hclose separate
          simpa [commaSeparated_cons, List.flatMap_map] using h

end

/-! ## Strings and members -/

/-- A quoted text ends at its closing quote. -/
theorem quoted_inj {s t : String} (h : quoted s ++ rest = quoted t ++ rest') :
    s = t ∧ rest = rest' := by
  simp only [quoted, List.cons_append, List.append_assoc, List.nil_append, List.cons.injEq,
    true_and] at h
  have hread := congrArg (Reader.string .kept) h
  rw [Reader.string_escaped, Reader.string_escaped] at hread
  exact Prod.mk.inj (Except.ok.inj hread)

/-- A member in its object. -/
def memberText : String × List Char → List Char
  | (name, text) => quoted name ++ ':' :: text

theorem canonicalItems_eq (items : List Json) :
    canonicalItems items = items.map canonicalChars := by
  induction items with
  | nil => rfl
  | cons item items ih => rw [canonicalItems, ih, List.map_cons]

theorem canonicalMembers_eq (members : Members) :
    canonicalMembers members = members.map fun (name, value) => (name, canonicalChars value) := by
  induction members with
  | nil => rfl
  | cons member members ih => rw [canonicalMembers, ih, List.map_cons]

theorem canonicalChars_arr (items : List Json) :
    canonicalChars (.arr items) = '[' :: (commaSeparated (canonicalItems items) ++ [']']) := rfl

theorem canonicalChars_obj (members : Members) :
    canonicalChars (.obj members) =
      '\x7b' :: (commaSeparated ((sortByUnits (canonicalMembers members)).map memberText) ++
        ['\x7d']) := rfl

theorem mem_sortByUnits {members : List (String × List Char)} {member : String × List Char} :
    member ∈ sortByUnits members ↔ member ∈ members :=
  (List.mergeSort_perm _ _).mem_iff

/-! ## Values -/

theorem exists_number {value : Json} (h : value.form = .number) :
    ∃ x, value.canonicalChars = canonicalNumber x := by
  cases value with
  | int value => exact ⟨.ofInt value, rfl⟩
  | float value => exact ⟨value, rfl⟩
  | _ => cases h

/-- A numeral ends where there is no character of one. -/
theorem separable_number {value : Json} (hvalue : value.form = .number) :
    Separable value.canonicalChars := by
  intro other rest rest' ends ends' h
  obtain ⟨x, hx⟩ := exists_number hvalue
  obtain ⟨y, hy⟩ := exists_number ((form_eq h).symm.trans hvalue)
  have stops {rest : List Char} (ends : Ends rest) :
      ∀ c ∈ rest.head?, isNumeralChar c = false := by
    intro c hc
    rcases ends c hc with rfl | rfl | rfl <;> decide
  rw [hx, hy] at h ⊢
  have htaken := congrArg (List.takeWhile isNumeralChar) h
  have hleft := congrArg (List.dropWhile isNumeralChar) h
  rw [Text.takeWhile_append (isNumeralChar_canonicalNumber x) (stops ends),
    Text.takeWhile_append (isNumeralChar_canonicalNumber y) (stops ends')] at htaken
  rw [Text.dropWhile_append (isNumeralChar_canonicalNumber x) (stops ends),
    Text.dropWhile_append (isNumeralChar_canonicalNumber y) (stops ends')] at hleft
  exact ⟨htaken, hleft⟩

theorem separable_str (value : String) : Separable (canonicalChars (.str value)) := by
  intro other rest rest' _ _ h
  have hform := form_eq h
  cases other with
  | str other =>
      obtain ⟨rfl, hrest⟩ := quoted_inj h
      exact ⟨rfl, hrest⟩
  | _ => cases hform

/-- The texts of the items are told out of the text of an array. -/
theorem items_inj {items others : List Json}
    (separate : ∀ text ∈ canonicalItems items, Separable text)
    (h : canonicalChars (.arr items) ++ rest = canonicalChars (.arr others) ++ rest') :
    canonicalItems items = canonicalItems others ∧ rest = rest' := by
  have canonical {items : List Json} {text : List Char} (htext : text ∈ canonicalItems items) :
      ∃ item : Json, item.canonicalChars = text := by
    rw [canonicalItems_eq] at htext
    obtain ⟨item, -, heq⟩ := List.mem_map.1 htext
    exact ⟨item, heq⟩
  have hitems : commaSeparated ((canonicalItems items).map id) ++ ']' :: rest =
      commaSeparated ((canonicalItems others).map id) ++ ']' :: rest' := by
    simpa [canonicalChars_arr] using h
  refine commaSeparated_inj (.inl rfl) ?_ ?_ hitems
  · intro text htext
    obtain ⟨item, rfl⟩ := htext.elim canonical canonical
    obtain ⟨c, chars, heq, -, hc⟩ := canonicalChars_cons item
    exact ⟨c, chars, heq, hc⟩
  · intro text htext other hother rest rest' ends ends' heq
    obtain ⟨item, rfl⟩ := canonical hother
    exact separate text htext item rest rest' ends ends' heq

/-- The names of the members and the texts of their values are told out of the text of an
object, in the order in which they stand there. -/
theorem members_inj {members others : Members}
    (separate : ∀ member ∈ canonicalMembers members, Separable member.2)
    (h : canonicalChars (.obj members) ++ rest = canonicalChars (.obj others) ++ rest') :
    sortByUnits (canonicalMembers members) = sortByUnits (canonicalMembers others) ∧
      rest = rest' := by
  have hmembers :
      commaSeparated ((sortByUnits (canonicalMembers members)).map memberText) ++
        '\x7d' :: rest =
      commaSeparated ((sortByUnits (canonicalMembers others)).map memberText) ++
        '\x7d' :: rest' := by
    simpa [canonicalChars_obj] using h
  refine commaSeparated_inj (.inr rfl) ?_ ?_ hmembers
  · intro member _
    exact ⟨'"', _, rfl, by decide⟩
  · rintro ⟨name, text⟩ hmember ⟨name', text'⟩ hother rest rest' ends ends' heq
    rw [mem_sortByUnits] at hmember hother
    rw [canonicalMembers_eq] at hother
    obtain ⟨⟨_, value⟩, -, hvalue⟩ := List.mem_map.1 hother
    obtain ⟨rfl, rfl⟩ := Prod.mk.inj hvalue
    simp only [memberText, List.append_assoc, List.cons_append] at heq
    obtain ⟨rfl, htext⟩ := quoted_inj heq
    obtain ⟨hsame, hrest⟩ :=
      separate _ hmember value rest rest' ends ends' (List.cons.inj htext).2
    exact ⟨congrArg _ hsame, hrest⟩

theorem separable_arr {items : List Json}
    (separate : ∀ text ∈ canonicalItems items, Separable text) :
    Separable (canonicalChars (.arr items)) := by
  intro other rest rest' _ _ h
  have hform := form_eq h
  cases other with
  | arr others =>
      obtain ⟨hsame, hrest⟩ := items_inj separate h
      rw [canonicalChars_arr, canonicalChars_arr, hsame]
      exact ⟨rfl, hrest⟩
  | _ => cases hform

theorem separable_obj {members : Members}
    (separate : ∀ member ∈ canonicalMembers members, Separable member.2) :
    Separable (canonicalChars (.obj members)) := by
  intro other rest rest' _ _ h
  have hform := form_eq h
  cases other with
  | obj others =>
      obtain ⟨hsame, hrest⟩ := members_inj separate h
      rw [canonicalChars_obj, canonicalChars_obj, hsame]
      exact ⟨rfl, hrest⟩
  | _ => cases hform

mutual

/-- **Where a canonical text stands, no other could.**  With one of the marks behind each of them
that follow a value, two canonical texts of which one begins with the other are one text. -/
theorem separable : (value : Json) → Separable value.canonicalChars
  | .null => by
      intro other rest rest' _ _ h
      have hform := form_eq h
      cases other with
      | null => exact ⟨rfl, List.append_cancel_left h⟩
      | _ => cases hform
  | .bool value => by
      intro other rest rest' _ _ h
      have hform := form_eq h
      cases other with
      | bool other =>
          obtain rfl := Form.truth.inj hform
          exact ⟨rfl, List.append_cancel_left h⟩
      | _ => cases hform
  | .int _ => separable_number rfl
  | .float _ => separable_number rfl
  | .str value => separable_str value
  | .arr items => separable_arr (separable_items items)
  | .obj members => separable_obj (separable_members members)

theorem separable_items : (items : List Json) → ∀ text ∈ canonicalItems items, Separable text
  | [] => fun _ h => absurd h List.not_mem_nil
  | item :: items => List.forall_mem_cons.2 ⟨separable item, separable_items items⟩

theorem separable_members : (members : Members) →
    ∀ member ∈ canonicalMembers members, Separable member.2
  | [] => fun _ h => absurd h List.not_mem_nil
  | (_, value) :: members => List.forall_mem_cons.2 ⟨separable value, separable_members members⟩

end

/-! ## Values with one text -/

/-- Two values of one canonical text. -/
def SameText (value other : Json) : Prop := value.canonicalChars = other.canonicalChars

variable {items others : List Json} {members members' : Members}

theorem sameText_str {s t : String} : SameText (.str s) (.str t) ↔ s = t := by
  refine ⟨fun h => ?_, fun h => h ▸ rfl⟩
  have hquoted : quoted s ++ [] = quoted t ++ [] := by
    rw [List.append_nil, List.append_nil]
    exact h
  exact (quoted_inj hquoted).1

/-- Whole numbers of sixty-four bits share a text if they round to one double. -/
theorem sameText_int {a b : Int} (ha : a.natAbs < 2 ^ 64) (hb : b.natAbs < 2 ^ 64) :
    SameText (.int a) (.int b) ↔ Binary64.ofInt a = Binary64.ofInt b :=
  Binary64.canonicalNumber_ofInt ha hb

/-- Arrays share a text if their items do, one by one. -/
theorem sameText_arr :
    SameText (.arr items) (.arr others) ↔ List.Forall₂ SameText items others := by
  have hitems : canonicalItems items = canonicalItems others ↔
      List.Forall₂ SameText items others := by
    rw [canonicalItems_eq, canonicalItems_eq, ← List.forall₂_eq_eq_eq, List.forall₂_map_left_iff,
      List.forall₂_map_right_iff]
    rfl
  rw [← hitems]
  constructor
  · intro h
    have htext : canonicalChars (.arr items) ++ [] = canonicalChars (.arr others) ++ [] := by
      rw [List.append_nil, List.append_nil]
      exact h
    exact (items_inj (separable_items items) htext).1
  · intro h
    rw [SameText, canonicalChars_arr, canonicalChars_arr, h]

/-- Objects of one text have the same members with the same texts, in some order. -/
theorem perm_of_sameText (h : SameText (.obj members) (.obj members')) :
    (canonicalMembers members).Perm (canonicalMembers members') := by
  have htext : canonicalChars (.obj members) ++ [] = canonicalChars (.obj members') ++ [] := by
    rw [List.append_nil, List.append_nil]
    exact h
  have hsorted := (members_inj (separable_members members) htext).1
  calc (canonicalMembers members).Perm (sortByUnits (canonicalMembers members)) :=
        (List.mergeSort_perm _ _).symm
    _ = sortByUnits (canonicalMembers members') := hsorted
    List.Perm _ (canonicalMembers members') := List.mergeSort_perm _ _

theorem names_perm_of_sameText (h : SameText (.obj members) (.obj members')) :
    (members.map Prod.fst).Perm (members'.map Prod.fst) := by
  have hperm := (perm_of_sameText h).map Prod.fst
  rw [canonicalMembers_eq, canonicalMembers_eq, List.map_map, List.map_map] at hperm
  exact hperm

/-- Members of distinct names in one order of the names are in one order. -/
theorem eq_of_perm_of_names {α : Type} {entries entries' : List (String × α)}
    (names : entries.map Prod.fst = entries'.map Prod.fst) (once : (entries.map Prod.fst).Nodup)
    (h : entries.Perm entries') : entries = entries' := by
  induction entries generalizing entries' with
  | nil => exact h.nil_eq
  | cons entry entries ih =>
      cases entries' with
      | nil => cases names
      | cons entry' entries' =>
          obtain ⟨name, value⟩ := entry
          obtain ⟨name', value'⟩ := entry'
          obtain ⟨rfl, others⟩ := List.cons.inj names
          rw [List.map_cons, List.nodup_cons] at once
          have hhead : (name, value) = (name, value') := by
            rcases List.mem_cons.1 (h.mem_iff.1 List.mem_cons_self) with heq | hmem
            · exact heq
            · refine absurd ?_ once.1
              rw [others]
              exact List.mem_map_of_mem hmem
          rw [hhead] at h ⊢
          rw [ih others once.2 h.cons_inv]

theorem canonicalMembers_eq_iff (names : members.map Prod.fst = members'.map Prod.fst) :
    canonicalMembers members = canonicalMembers members' ↔
      List.Forall₂ (fun member other => SameText member.2 other.2) members members' := by
  induction members generalizing members' with
  | nil =>
      cases members' with
      | nil => exact iff_of_true rfl .nil
      | cons member' members' => cases names
  | cons member members ih =>
      cases members' with
      | nil => cases names
      | cons member' members' =>
          obtain ⟨hname, others⟩ := List.cons.inj names
          rw [canonicalMembers, canonicalMembers, List.cons.injEq, Prod.mk.injEq, ih others,
            List.forall₂_cons, hname, eq_self_iff_true, true_and]
          rfl

/-- Objects with the same names, each once, share a text if their values do, one by one. -/
theorem sameText_obj (names : members.map Prod.fst = members'.map Prod.fst)
    (once : (members.map Prod.fst).Nodup) :
    SameText (.obj members) (.obj members') ↔
      List.Forall₂ (fun member other => SameText member.2 other.2) members members' := by
  have written (members : Members) :
      (canonicalMembers members).map Prod.fst = members.map Prod.fst := by
    rw [canonicalMembers_eq, List.map_map]
    rfl
  rw [← canonicalMembers_eq_iff names]
  constructor
  · intro h
    refine eq_of_perm_of_names ?_ ?_ (perm_of_sameText h)
    · rw [written, written, names]
    · rw [written]
      exact once
  · intro h
    rw [SameText, canonicalChars_obj, canonicalChars_obj, h]

end ArtifactStaging.Json
