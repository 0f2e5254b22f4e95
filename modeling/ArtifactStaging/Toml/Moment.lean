/-
# ArtifactStaging.Toml.Moment -- dates and times of a configuration file

A date, a time of day, or both with or without an offset from UTC stand for their
own text, with a `T` between date and time, an upper-case `Z`, and at most nine
digits of a second, less the zeros at their end.

`moment?` reads one where a value is expected, and `momentIn?` one that a string
holds from end to end.
-/
import ArtifactStaging.Json.Reader
import ArtifactStaging.Time.Instant

set_option autoImplicit false

namespace ArtifactStaging.Toml

/-- What was read, and the text that is left. -/
abbrev Scan (α : Type) := List Char → Option (α × List Char)

/-! ## As a value -/

/-- Exactly so many digits, with a value in a range. -/
def fixed? (count least most : Nat) (text : List Char) : Option (Nat × List Char) :=
  let digits := text.take count
  let n := Json.Reader.digitsValue digits
  if digits.length = count ∧ digits.all Char.isDigit ∧ least ≤ n ∧ n ≤ most then
    some (n, text.drop count)
  else none

/-- One character. -/
def mark? (c : Char) : List Char → Option (List Char)
  | d :: rest => if c = d then some rest else none
  | [] => none

/-- Two digits. -/
def twoDigits (n : Nat) : List Char :=
  [Char.ofNat (48 + n / 10 % 10), Char.ofNat (48 + n % 10)]

/-- A date, as its text. -/
def date? (text : List Char) : Option (List Char × List Char) := do
  let (year, rest) ← fixed? 4 0 9999 text
  let rest ← mark? '-' rest
  let (month, rest) ← fixed? 2 1 12 rest
  let rest ← mark? '-' rest
  let (day, rest) ← fixed? 2 1 31 rest
  if day ≤ Instant.daysInMonth year month then
    some (twoDigits (year / 100) ++ twoDigits year ++ '-' :: twoDigits month ++
      '-' :: twoDigits day, rest)
  else none

/-- The part of a second: nine digits count, and zeros at their end do not. -/
def secondPart : List Char → List Char × List Char
  | '.' :: rest =>
      let digits := rest.takeWhile Char.isDigit
      if digits.isEmpty then ([], '.' :: rest)
      else
        let shown := Text.dropTrailing '0' (digits.take 9)
        (if shown.isEmpty then [] else '.' :: shown, rest.drop digits.length)
  | text => ([], text)

/-- A time of day with an hour up to `lastHour`, as its text. -/
def timeOfDay? (lastHour : Nat) (text : List Char) : Option (List Char × List Char) := do
  let (hour, rest) ← fixed? 2 0 lastHour text
  let rest ← mark? ':' rest
  let (minute, rest) ← fixed? 2 0 59 rest
  let rest ← mark? ':' rest
  let (second, rest) ← fixed? 2 0 60 rest
  let (part, rest) := secondPart rest
  some (twoDigits hour ++ ':' :: twoDigits minute ++ ':' :: twoDigits second ++ part, rest)

/-- An offset from UTC, as its text; one of no minutes is ahead. -/
def offset? (text : List Char) : Option (List Char × List Char) :=
  let hours (negative : Bool) (rest : List Char) : Option (List Char × List Char) := do
    let (hour, rest) ← fixed? 2 0 23 rest
    let rest ← mark? ':' rest
    let (minute, rest) ← fixed? 2 0 59 rest
    let behind := negative && (hour != 0 || minute != 0)
    some ((if behind then '-' else '+') :: twoDigits hour ++ ':' :: twoDigits minute, rest)
  match text with
  | 'Z' :: rest => some (['Z'], rest)
  | 'z' :: rest => some (['Z'], rest)
  | '+' :: rest => hours false rest
  | '-' :: rest => hours true rest
  | _ => none

/-- Whether a character stands between a date and a time. -/
def partsDateAndTime (c : Char) : Bool := c == 'T' || c == 't' || c == ' '

/-- The time of day after a date, with its offset if it has one. -/
def timeAfterDate? (text : List Char) : Option (List Char × List Char) :=
  match text with
  | c :: rest =>
      if partsDateAndTime c then do
        let (time, rest) ← timeOfDay? 23 rest
        match offset? rest with
        | some (offset, rest) => some ('T' :: time ++ offset, rest)
        | none => some ('T' :: time, rest)
      else none
  | [] => none

/-- A date, a time of day or both. -/
def moment? (text : List Char) : Option (String × List Char) :=
  match date? text with
  | some (date, rest) =>
      match timeAfterDate? rest with
      | some (time, rest) => some (String.ofList (date ++ time), rest)
      | none => some (String.ofList date, rest)
  | none => (timeOfDay? 23 text).map fun (time, rest) => (String.ofList time, rest)

/-! ## In a string -/

/-- The offset from UTC that ends a date-time in a string, as its text; it is a day at most,
and sixty minutes or more count as hours. -/
def lastOffset? (text : List Char) : Option (List Char) :=
  let minutes (negative : Bool) (rest : List Char) : Option (List Char) := do
    let (hour, rest) ← fixed? 2 0 99 rest
    let rest ← mark? ':' rest
    let (minute, rest) ← fixed? 2 0 99 rest
    let total := hour * 60 + minute
    if total ≤ 1440 ∧ rest.isEmpty then
      some ((if negative && total != 0 then '-' else '+') :: twoDigits (total / 60) ++
        ':' :: twoDigits (total % 60))
    else none
  match text with
  | [] => some []
  | ['Z'] => some ['Z']
  | ['z'] => some ['Z']
  | '+' :: rest => minutes false rest
  | '-' :: rest => minutes true rest
  | _ => none

/-- What follows the date in a string: nothing, or a time of day and perhaps an offset. -/
def afterDateInString? (text : List Char) : Option (List Char) :=
  match text with
  | [] => some []
  | c :: rest =>
      if partsDateAndTime c then do
        let (time, rest) ← timeOfDay? 24 rest
        some ('T' :: time ++ (← lastOffset? rest))
      else none

/-- A string that is a date, a time of day or both from end to end, as the text of that; an
hour may be the twenty-fourth. -/
def momentIn? (text : String) : Option String :=
  let text := text.toList
  if text[2]? = some ':' then
    match timeOfDay? 24 text with
    | some (time, []) => some (String.ofList time)
    | _ => none
  else do
    let (date, rest) ← date? text
    some (String.ofList (date ++ (← afterDateInString? rest)))

end ArtifactStaging.Toml
