/-
# ArtifactStaging.Json.Reader -- reading JSON from text

A reader takes the text that is left and answers what it read with the text that
is left then, or a fault.  A fault says whether the text is not JSON
(`malformed`), ends too early (`truncated`) or is JSON of another shape than the
one asked for (`mismatched`).  Of two faults the one met first in the text is
answered, so a value of the wrong shape is refused before the text after it is
looked at.

* `value` reads any value.  A value that is to be `skipped` is held only to the
  grammar: numbers may be too large, strings may hold half a surrogate pair, and
  nesting has no bound; a value that is `kept` may not.
* `textField`, `wholeField` and `choiceField` read a value of one shape.
* `members` and `elements` run through an object or an array that was opened.

A numeral with a point or an exponent, or beyond 64 bits, is the double nearest
to it.  Every loop is bounded by the length of the text.
-/
import ArtifactStaging.Json.Printer
import ArtifactStaging.Text.Cut

set_option autoImplicit false

namespace ArtifactStaging.Json

/-- Why a text is not the document asked for. -/
inductive Fault where
  | malformed
  | truncated
  | mismatched
deriving DecidableEq, Repr, Inhabited

/-- The text of a fault. -/
def Fault.message : Fault → String
  | .malformed => "the text is malformed"
  | .truncated => "the text ends too early"
  | .mismatched => "a value does not fit"

/-- What was read, and the text that is left. -/
abbrev Reader (α : Type) := List Char → Except Fault (α × List Char)

namespace Reader

/-- Whether a value is wanted, or only has to be passed over. -/
inductive Care where
  | kept
  | skipped
deriving DecidableEq, Repr

/-! ## Blanks and words -/

/-- The four blanks of JSON. -/
def isBlank (c : Char) : Bool := c == ' ' || c == '\n' || c == '\t' || c == '\r'

/-- The text without blanks in front. -/
def skipBlanks (text : List Char) : List Char := text.dropWhile isBlank

/-- The rest of a word whose first letter was seen. -/
def word : List Char → List Char → Except Fault (List Char)
  | [], text => .ok text
  | _ :: _, [] => .error .truncated
  | c :: expected, d :: text => if c = d then word expected text else .error .malformed

/-! ## Strings -/

/-- The length of a text in UTF-8. -/
def byteLength (text : List Char) : Nat := text.foldl (fun total c => total + c.utf8Size) 0

/-- Four hexadecimal digits; fewer than four bytes of text are too few. -/
def hexUnit : Reader Nat
  | a :: b :: c :: d :: rest =>
      match Text.hexValue? a, Text.hexValue? b, Text.hexValue? c, Text.hexValue? d with
      | some a, some b, some c, some d => .ok (((a * 16 + b) * 16 + c) * 16 + d, rest)
      | _, _, _, _ => .error .malformed
  | short => .error (if byteLength short < 4 then .truncated else .malformed)

/-- The first or second half of a surrogate pair. -/
def isHighHalf (unit : Nat) : Bool := 0xD800 ≤ unit && unit ≤ 0xDBFF

/-- The second half of a surrogate pair. -/
def isLowHalf (unit : Nat) : Bool := 0xDC00 ≤ unit && unit ≤ 0xDFFF

/-- The character of a whole pair. -/
def pairChar (high low : Nat) : Char :=
  Char.ofNat (0x10000 + (high - 0xD800) * 0x400 + (low - 0xDC00))

/-- What follows `\u`: one unit, or two that make a pair. -/
def unicodeEscape (care : Care) (text : List Char) : Except Fault (Char × List Char) := do
  let (unit, rest) ← hexUnit text
  match care with
  | .skipped => .ok ('\uFFFD', rest)
  | .kept =>
      if isLowHalf unit then .error .malformed
      else if isHighHalf unit then
        match rest with
        | [] => .error .truncated
        | '\\' :: [] => .error .truncated
        | '\\' :: 'u' :: rest =>
            let (low, rest) ← hexUnit rest
            if isLowHalf low then .ok (pairChar unit low, rest) else .error .malformed
        | _ => .error .malformed
      else .ok (Char.ofNat unit, rest)

/-- What follows a backslash. -/
def escapeBody (care : Care) : Reader Char
  | [] => .error .truncated
  | '"' :: rest => .ok ('"', rest)
  | '\\' :: rest => .ok ('\\', rest)
  | '/' :: rest => .ok ('/', rest)
  | 'b' :: rest => .ok ('\x08', rest)
  | 'f' :: rest => .ok ('\x0c', rest)
  | 'n' :: rest => .ok ('\n', rest)
  | 'r' :: rest => .ok ('\r', rest)
  | 't' :: rest => .ok ('\t', rest)
  | 'u' :: rest => unicodeEscape care rest
  | _ => .error .malformed

/-- The characters up to and with the closing quote. -/
def stringBody (care : Care) : (fuel : Nat) → Reader (List Char)
  | 0, _ => .error .truncated
  | _ + 1, [] => .error .truncated
  | _ + 1, '"' :: rest => .ok ([], rest)
  | fuel + 1, '\\' :: rest => do
      let (c, rest) ← escapeBody care rest
      let (more, rest) ← stringBody care fuel rest
      .ok (c :: more, rest)
  | fuel + 1, c :: rest =>
      if c.toNat < 32 then .error .malformed
      else do
        let (more, rest) ← stringBody care fuel rest
        .ok (c :: more, rest)

/-- A string whose opening quote was seen. -/
def string (care : Care) (text : List Char) : Except Fault (String × List Char) := do
  let (chars, rest) ← stringBody care (text.length + 1) text
  .ok (String.ofList chars, rest)

/-! ## Numbers -/

/-- The number that a row of digits stands for. -/
def digitsValue (digits : List Char) : Nat :=
  digits.foldl (fun total c => total * 10 + (c.toNat - 48)) 0

/-- The fault of a numeral that stops short; passing over a value, every numeral
that breaks off is malformed. -/
def numeralFault (care : Care) (rest : List Char) : Fault :=
  if care = .kept ∧ rest.isEmpty then .truncated else .malformed

/-- A whole numeral stands for itself within 64 bits, and for a double beyond them or as
negative zero. -/
def wholeNumber (negative : Bool) (digits : List Char) : Option Json :=
  let n := digitsValue digits
  if negative then
    if n = 0 ∨ -(n : Int) < Width.leastSigned64 then (Binary64.ofDecimal? true n 0).map .float
    else some (.int (-n))
  else if n ≤ Width.most64 then some (.int n)
  else (Binary64.ofDecimal? false n 0).map .float

/-- The exponent of a numeral after its mark, if there is one. -/
def exponentPart (care : Care) (text : List Char) : Except Fault (Option Int × List Char) :=
  match text with
  | 'e' :: rest | 'E' :: rest =>
      let (sign, rest) : Int × List Char := match rest with
        | '+' :: rest => (1, rest)
        | '-' :: rest => (-1, rest)
        | _ => (1, rest)
      let digits := rest.takeWhile Char.isDigit
      let after := rest.dropWhile Char.isDigit
      if digits.isEmpty then .error (numeralFault care after)
      else .ok (some (sign * digitsValue digits), after)
  | _ => .ok (none, text)

/-- A numeral with a point or an exponent. -/
def fractional (care : Care) (negative : Bool) (whole fraction : List Char) (text : List Char) :
    Except Fault (Json × List Char) := do
  let (exponent?, rest) ← exponentPart care text
  let exponent := exponent?.getD 0
  match care with
  | .skipped => .ok (.null, rest)
  | .kept =>
      match Binary64.ofDecimal? negative (digitsValue (whole ++ fraction))
          (exponent - fraction.length) with
      | some x => .ok (.float x, rest)
      | none => .error .malformed

/-- A numeral after its sign. -/
def numeral (care : Care) (negative : Bool) (text : List Char) : Except Fault (Json × List Char) :=
  let whole := text.takeWhile Char.isDigit
  let rest := text.dropWhile Char.isDigit
  match whole with
  | [] => .error (numeralFault care rest)
  | '0' :: _ :: _ => .error .malformed
  | _ =>
      match rest with
      | '.' :: rest =>
          let fraction := rest.takeWhile Char.isDigit
          let after := rest.dropWhile Char.isDigit
          if fraction.isEmpty then .error (numeralFault care after)
          else fractional care negative whole fraction after
      | 'e' :: _ | 'E' :: _ => fractional care negative whole [] rest
      | _ =>
          match care, wholeNumber negative whole with
          | .skipped, _ => .ok (.null, rest)
          | .kept, some n => .ok (n, rest)
          | .kept, none => .error .malformed

/-! ## Leaves -/

/-- A value that is no array or object, if one starts here. -/
def scalar? (care : Care) : List Char → Option (Except Fault (Json × List Char))
  | 'n' :: rest => some ((word ['u', 'l', 'l'] rest).map fun rest => (.null, rest))
  | 't' :: rest => some ((word ['r', 'u', 'e'] rest).map fun rest => (.bool true, rest))
  | 'f' :: rest => some ((word ['a', 'l', 's', 'e'] rest).map fun rest => (.bool false, rest))
  | '-' :: rest => some (numeral care true rest)
  | '"' :: rest => some ((string care rest).map fun (s, rest) => (.str s, rest))
  | c :: rest => if c.isDigit then some (numeral care false (c :: rest)) else none
  | [] => none

/-! ## Running through members and elements -/

/-- Whether another member follows: the text from its name's opening quote on, or none
before the closing brace. -/
def nextMember (first : Bool) (text : List Char) : Except Fault (Option (List Char)) :=
  match skipBlanks text with
  | [] => .error .truncated
  | '\x7d' :: _ => .ok none
  | c :: rest =>
      if first then
        if c = '"' then .ok (some rest) else .error .malformed
      else if c = ',' then
        match skipBlanks rest with
        | [] => .error .truncated
        | '"' :: rest => .ok (some rest)
        | _ => .error .malformed
      else .error .malformed

/-- The colon after a member's name. -/
def colon (text : List Char) : Except Fault (List Char) :=
  match skipBlanks text with
  | [] => .error .truncated
  | ':' :: rest => .ok rest
  | _ => .error .malformed

/-- Whether another element follows: the text from it on, or none before the closing
bracket. -/
def nextElement (first : Bool) (text : List Char) : Except Fault (Option (List Char)) :=
  match skipBlanks text with
  | [] => .error .truncated
  | ']' :: _ => .ok none
  | c :: rest =>
      if first then .ok (some (c :: rest))
      else if c = ',' then
        match skipBlanks rest with
        | [] => .error .truncated
        | ']' :: _ => .error .malformed
        | rest => .ok (some rest)
      else .error .malformed

/-- The closing mark of an object or array. -/
def close (mark : Char) (text : List Char) : Except Fault (List Char) :=
  match skipBlanks text with
  | [] => .error .truncated
  | c :: rest => if c = mark then .ok rest else .error .malformed

/-- Run through the members of an object that was opened, up to its closing brace.  Names
are read with `care`; `onMember` goes on right after a name, so the colon is its own to read. -/
def members {σ : Type} (care : Care) (onMember : String → σ → Reader σ) :
    (fuel : Nat) → (first : Bool) → σ → Reader σ
  | 0, _, _, _ => .error .malformed
  | fuel + 1, first, state, text => do
      match ← nextMember first text with
      | none => .ok (state, text)
      | some rest =>
          let (name, rest) ← string care rest
          let (state, rest) ← onMember name state rest
          members care onMember fuel false state rest

/-- Run through the elements of an array that was opened, up to its closing bracket. -/
def elements {σ : Type} (onElement : σ → Reader σ) :
    (fuel : Nat) → (first : Bool) → σ → Reader σ
  | 0, _, _, _ => .error .malformed
  | fuel + 1, first, state, text => do
      match ← nextElement first text with
      | none => .ok (state, text)
      | some rest =>
          let (state, rest) ← onElement state rest
          elements onElement fuel false state rest

/-! ## Any value -/

/-- How deep arrays and objects may nest in a value that is kept. -/
def depthBound : Nat := 128

/-- One level further in, if that is allowed. -/
def deeper (care : Care) (depth : Nat) : Except Fault Nat :=
  match care with
  | .skipped => .ok depth
  | .kept => if depth ≤ 1 then .error .malformed else .ok (depth - 1)

/-- Any value, its members in the order of the text. -/
def valueWithin (care : Care) : (fuel depth : Nat) → Reader Json
  | 0, _, _ => .error .malformed
  | fuel + 1, depth, text =>
      match skipBlanks text with
      | [] => .error .truncated
      | '[' :: rest => do
          let depth ← deeper care depth
          let step (items : List Json) (text : List Char) := do
            let (item, rest) ← valueWithin care fuel depth text
            .ok (item :: items, rest)
          let (items, rest) ← elements step (rest.length + 1) true [] rest
          let rest ← close ']' rest
          .ok (.arr items.reverse, rest)
      | '\x7b' :: rest => do
          let depth ← deeper care depth
          let step (name : String) (done : Members) (text : List Char) := do
            let rest ← colon text
            let (item, rest) ← valueWithin care fuel depth rest
            .ok ((name, item) :: done, rest)
          let (done, rest) ← members care step (rest.length + 1) true [] rest
          let rest ← close '\x7d' rest
          .ok (.obj done.reverse, rest)
      | c :: rest => (scalar? care (c :: rest)).getD (.error .malformed)

/-- Any value at a depth. -/
def value (care : Care) (depth : Nat) : Reader Json := fun text =>
  valueWithin care (text.length + 1) depth text

/-! ## Values of one shape -/

/-- A value of another shape was met; a broken scalar has its own fault. -/
def wrongShape {α : Type} (text : List Char) : Except Fault α :=
  match text with
  | '[' :: _ => .error .mismatched
  | '\x7b' :: _ => .error .mismatched
  | _ =>
      match scalar? .kept text with
      | some (.error fault) => .error fault
      | some (.ok _) => .error .mismatched
      | none => .error .malformed

/-- A string. -/
def textField : Reader String := fun text =>
  match skipBlanks text with
  | [] => .error .truncated
  | '"' :: rest => string .kept rest
  | other => wrongShape other

/-- A whole number from `least` to `most`. -/
def wholeField (least most : Int) : Reader Int := fun text =>
  match skipBlanks text with
  | [] => .error .truncated
  | '[' :: _ => .error .mismatched
  | '\x7b' :: _ => .error .mismatched
  | other =>
      match scalar? .kept other with
      | some (.ok (.int n, rest)) =>
          if least ≤ n ∧ n ≤ most then .ok (n, rest) else .error .mismatched
      | some (.ok _) => .error .mismatched
      | some (.error fault) => .error fault
      | none => .error .malformed

/-- Null. -/
def nullField : Reader Unit := fun text =>
  match skipBlanks text with
  | [] => .error .truncated
  | 'n' :: rest => (word ['u', 'l', 'l'] rest).map fun rest => ((), rest)
  | other => wrongShape other

/-- One of several names: as a string, or as the only member of an object, over null. -/
def choiceField {α : Type} (choose : String → Option α) : Reader α := fun text =>
  match skipBlanks text with
  | [] => .error .truncated
  | '"' :: rest => do
      let (name, rest) ← string .kept rest
      match choose name with
      | some choice => .ok (choice, rest)
      | none => .error .mismatched
  | '\x7b' :: rest => do
      let (name, rest) ← textField rest
      match choose name with
      | none => .error .mismatched
      | some choice =>
          let rest ← colon rest
          let (_, rest) ← nullField rest
          let rest ← close '\x7d' rest
          .ok (choice, rest)
  | _ => .error .malformed

/-- What follows a member's name and is not wanted. -/
def skipMember (text : List Char) : Except Fault (List Char) := do
  let rest ← colon text
  let (_, rest) ← value .skipped 0 rest
  .ok rest

/-- What follows a member's name, by a reader of its own. -/
def memberValue {α : Type} (reader : Reader α) : Reader α := fun text => do
  reader (← colon text)

/-- The value of a member that must not have been met before. -/
def freshMember {α : Type} (seen : Option α) (reader : Reader α) : Reader α := fun text =>
  if seen.isSome then .error .mismatched else memberValue reader text

/-- The next of the elements that stand for the fields of a record; too few are another
shape. -/
def nextField {α : Type} (first : Bool) (reader : Reader α) : Reader α := fun text => do
  match ← nextElement first text with
  | none => .error .mismatched
  | some rest => reader rest

/-- Nothing but blanks may follow the document. -/
def document {α : Type} (reader : Reader α) (text : String) : Except Fault α := do
  let (result, rest) ← reader text.toList
  if (skipBlanks rest).isEmpty then .ok result else .error .malformed

end Reader

/-- Any value, its members in the order of the text. -/
def parse (text : String) : Except Fault Json :=
  Reader.document (Reader.value .kept Reader.depthBound) text

end ArtifactStaging.Json
