/-
# ArtifactStaging.Logging.Filter -- which log lines are shown

A filter is a list of directives parted by commas; empty ones do not count.  A
directive is a level, a target, or `target[span{field=value}]=level`, each part of
which may be missing.  A target starts with a letter, a digit, a minus sign, a
colon or an underscore.  A level is a number from 0 to 5, a name in any case, or
nothing.

A word without an equals sign is always right: what is no level is a target.  A
field is a name, and perhaps a value after an equals sign: a number or a pattern.

Blanks around a directive do not count in finding its parts; but the fields and
the level are then cut out of the directive as it stands, blanks included, at the
bytes so found.
-/
import ArtifactStaging.Json.Reader
import ArtifactStaging.Logging.Format
import ArtifactStaging.Logging.Pattern.Reader
import ArtifactStaging.Text.Letter

set_option autoImplicit false

namespace ArtifactStaging.LogFilter

open Text

/-! ## Levels -/

/-- The names of the levels. -/
def levelNames : List String := ["", "error", "warn", "info", "debug", "trace", "off"]

/-- A numeral of a level: digits after an optional plus, with a value up to five. -/
def isLevelNumeral (text : List Char) : Bool :=
  let digits := match text with
    | '+' :: rest => rest
    | text => text
  !digits.isEmpty && digits.all Char.isDigit && Json.Reader.digitsValue digits ≤ 5

/-- Whether a text is a level. -/
def isLevel (text : List Char) : Bool :=
  isLevelNumeral text || levelNames.contains (lowerAscii (String.ofList text))

/-! ## Fields -/

/-- Whether a text is a number: digits with or without a point and a power of ten, or the
name of an infinity or of not-a-number, in any case; a sign may come first. -/
def isNumber (text : List Char) : Bool :=
  let body := match text with
    | '+' :: rest => rest
    | '-' :: rest => rest
    | rest => rest
  let whole := body.takeWhile Char.isDigit
  let (fraction, rest) := match body.drop whole.length with
    | '.' :: rest => (rest.takeWhile Char.isDigit, rest.dropWhile Char.isDigit)
    | rest => ([], rest)
  let isDecimal := !(whole ++ fraction).isEmpty && isPower rest
  isDecimal || ["inf", "infinity", "nan"].contains (lowerAscii (String.ofList body))
where
  /-- A power of ten after a decimal, or nothing. -/
  isPower : List Char → Bool
    | [] => true
    | c :: rest =>
        let digits := match rest with
          | '+' :: rest => rest
          | '-' :: rest => rest
          | rest => rest
        (c == 'e' || c == 'E') && !digits.isEmpty && digits.all Char.isDigit

/-- Whether a field is right: its value, if it has one, is a number or a pattern.  A second
equals sign ends the value. -/
def isField (field : List Char) : Bool :=
  match pieces '=' field with
  | _ :: value :: _ => isNumber value || FieldPattern.isPattern value
  | _ => true

/-! ## Directives -/

/-- What part of a directive is being read; a field and a level know the byte they start at. -/
inductive Part where
  | start
  | word
  | span
  | field (first : Nat)
  | fields
  | target
  | level (first : Nat)
deriving DecidableEq, Repr

/-- Where the parts of a directive stand: the first byte of each field and the one after it,
and the part that is being read. -/
structure Outline where
  fields : List (Nat × Nat)
  part : Part
deriving DecidableEq, Repr

/-- Whether a directive may start with a character. -/
def startsWord (c : Char) : Bool := c == '-' || c == ':' || c == '_' || isLetterOrNumber c

/-- One more character of a directive, at a byte; none where it cannot stand. -/
def Outline.step (outline : Outline) (place : Nat) (c : Char) : Option Outline :=
  let goOn (part : Part) : Option Outline := some { outline with part }
  match outline.part with
  | .start =>
      if c == '[' then goOn .span
      else if startsWord c then goOn .word
      else none
  | .word =>
      if c == '=' then goOn (.level (place + 1))
      else if c == '[' then goOn .span
      else goOn .word
  | .span =>
      if c == ']' then goOn .target
      else if c == '\x7b' then goOn (.field (place + 1))
      else goOn .span
  | .field first =>
      if c == '\x7d' then
        if first = place then none else some ⟨(first, place) :: outline.fields, .fields⟩
      else some outline
  | .fields => if c == ']' then goOn .target else none
  | .target => if c == '=' then goOn (.level (place + 1)) else none
  | .level _ => some outline

/-- The outline of a directive whose text goes on at a byte. -/
def outlineFrom : (place : Nat) → Outline → List Char → Option Outline
  | _, outline, [] => some outline
  | place, outline, c :: rest =>
      match outline.step place c with
      | some outline => outlineFrom (place + c.utf8Size) outline rest
      | none => none

/-- Whether the part that a directive ends in is right. -/
def isEnding (directive : List Char) : Part → Bool
  | .word => true
  | .target => true
  | .level first => isLevel (fromByte first directive)
  | _ => false

/-- Whether a directive is right. -/
def isDirective (directive : String) : Bool :=
  let text := directive.toList
  match outlineFrom 0 ⟨[], .start⟩ (trimBlanks directive).toList with
  | some outline =>
      outline.fields.all (fun (first, past) => isField (upToByte (past - first)
        (fromByte first text))) &&
      isEnding text outline.part
  | none => false

/-! ## Filters -/

/-- Whether a filter is right. -/
def isFilter (filter : String) : Bool :=
  (split ',' filter).all fun directive => directive.isEmpty || isDirective directive

/-- What comes of starting a logger with a filter where another may run already. -/
def start (running : Bool) (filter : String) : Except LoggerError Unit :=
  if !isFilter filter then .error (.invalidLevel filter)
  else if running then .error .alreadyStarted
  else .ok ()

end ArtifactStaging.LogFilter
