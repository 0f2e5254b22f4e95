/-
# ArtifactStaging.Time.Instant -- points in time and their text

An instant is a second, counted from the start of 1970 in UTC, and the
nanoseconds into it.  A leap second is the second before it with a full second
of nanoseconds more.

`parse` reads a date, a time of day and an offset from UTC:
`2024-01-02T03:04:05.5+02:00`.  Between the date and the time stands a `T`, in
either case, or a blank; blanks are also allowed in front of every number, mark
and offset; the offset is `Z`, `UTC` or hours and minutes.  `render` writes an
instant in UTC, with no more than zero, three, six or nine digits of a second.
-/
import ArtifactStaging.Number.Power
import ArtifactStaging.Text.Cut

set_option autoImplicit false

namespace ArtifactStaging

/-- A point in time. -/
structure Instant where
  /-- Whole seconds since the start of 1970. -/
  seconds : Int
  /-- Nanoseconds after them. -/
  nanoseconds : Nat
deriving DecidableEq, Repr, Inhabited

namespace Instant

/-! ## The calendar -/

/-- Whether a year has a 29th of February. -/
def isLeapYear (year : Int) : Bool :=
  year % 4 == 0 && (year % 100 != 0 || year % 400 == 0)

/-- How many days a month has. -/
def daysInMonth (year : Int) (month : Nat) : Nat :=
  if month = 2 then if isLeapYear year then 29 else 28
  else if month = 4 ∨ month = 6 ∨ month = 9 ∨ month = 11 then 30
  else 31

/-- The days from the start of 1970 to a date.  Years begin in March here, so that a leap
day is the last of its year. -/
def dayNumber (year : Int) (month day : Nat) : Int :=
  let year := if month ≤ 2 then year - 1 else year
  let era := year.fdiv 400
  let yearOfEra := year - era * 400
  let monthFromMarch : Int := (month + 9) % 12
  let dayOfYear := (153 * monthFromMarch + 2) / 5 + day - 1
  let dayOfEra := yearOfEra * 365 + yearOfEra / 4 - yearOfEra / 100 + dayOfYear
  era * 146097 + dayOfEra - 719468

/-- The year, month and day of a day number. -/
def dateOf (number : Int) : Int × Nat × Nat :=
  let shifted := number + 719468
  let era := shifted.fdiv 146097
  let dayOfEra := shifted - era * 146097
  let yearOfEra :=
    (dayOfEra - dayOfEra / 1460 + dayOfEra / 36524 - dayOfEra / 146096) / 365
  let dayOfYear := dayOfEra - (365 * yearOfEra + yearOfEra / 4 - yearOfEra / 100)
  let monthFromMarch := (5 * dayOfYear + 2) / 153
  let day := dayOfYear - (153 * monthFromMarch + 2) / 5 + 1
  let month := if monthFromMarch < 10 then monthFromMarch + 3 else monthFromMarch - 9
  let year := yearOfEra + era * 400
  (if month ≤ 2 then year + 1 else year, month.toNat, day.toNat)

/-- The first and the last year that a date can have. -/
def firstYear : Int := -262143

/-- The last year that a date can have. -/
def lastYear : Int := 262142

/-! ## Reading -/

/-- The text without blanks in front. -/
def skipBlanks (text : List Char) : List Char := text.dropWhile Text.isBlank

/-- One to `most` digits. -/
def digits? (most : Nat) (text : List Char) : Option (Nat × List Char) :=
  let taken := (text.take most).takeWhile Char.isDigit
  if taken.isEmpty then none
  else some (taken.foldl (fun n c => n * 10 + (c.toNat - 48)) 0, text.drop taken.length)

/-- A number in a range, after blanks. -/
def field? (most least greatest : Nat) (text : List Char) : Option (Nat × List Char) := do
  let (n, rest) ← digits? most (skipBlanks text)
  if least ≤ n ∧ n ≤ greatest then some (n, rest) else none

/-- A mark, after blanks. -/
def mark? (c : Char) (text : List Char) : Option (List Char) :=
  match skipBlanks text with
  | d :: rest => if c = d then some rest else none
  | [] => none

/-- A year: four digits at most, or any number after a sign. -/
def year? (text : List Char) : Option (Int × List Char) :=
  match skipBlanks text with
  | '-' :: rest => (digits? rest.length rest).map fun (n, rest) => (-(n : Int), rest)
  | '+' :: rest => (digits? rest.length rest).map fun (n, rest) => ((n : Int), rest)
  | text => (digits? 4 text).map fun (n, rest) => ((n : Int), rest)

/-- The nanoseconds that digits after a point stand for; from the tenth on they do not
count. -/
def fraction? : List Char → Option (Nat × List Char)
  | '.' :: rest => do
      let (n, after) ← digits? 9 rest
      let count := rest.length - after.length
      some (n * power 10 (9 - count), after.dropWhile Char.isDigit)
  | text => some (0, text)

/-- Two digits. -/
def twoDigits? : List Char → Option (Nat × List Char)
  | a :: b :: rest =>
      if a.isDigit && b.isDigit then some ((a.toNat - 48) * 10 + (b.toNat - 48), rest) else none
  | _ => none

/-- Hours and minutes after a sign, as minutes. -/
def hoursAndMinutes? (text : List Char) : Option (Nat × List Char) := do
  let (hours, rest) ← twoDigits? text
  let (minutes, rest) ← twoDigits? (rest.dropWhile fun c => c == ':' || Text.isBlank c)
  if hours < 24 ∧ minutes < 60 then some (hours * 60 + minutes, rest) else none

/-- The minutes by which a time of day is ahead of UTC. -/
def offset? (text : List Char) : Option (Int × List Char) :=
  match skipBlanks text with
  | 'Z' :: rest => some (0, rest)
  | 'z' :: rest => some (0, rest)
  | '+' :: rest => (hoursAndMinutes? rest).map fun (n, rest) => ((n : Int), rest)
  | '-' :: rest => (hoursAndMinutes? rest).map fun (n, rest) => (-(n : Int), rest)
  | '\u2212' :: rest => (hoursAndMinutes? rest).map fun (n, rest) => (-(n : Int), rest)
  | a :: b :: c :: rest =>
      if [a, b, c].map Char.toUpper = ['U', 'T', 'C'] then some (0, rest) else none
  | _ => none

/-- A date, as the number of its day. -/
def date? (text : List Char) : Option (Int × List Char) := do
  let (year, rest) ← year? text
  let rest ← mark? '-' rest
  let (month, rest) ← field? 2 1 12 rest
  let rest ← mark? '-' rest
  let (day, rest) ← field? 2 1 31 rest
  if firstYear ≤ year ∧ year ≤ lastYear ∧ day ≤ daysInMonth year month then
    some (dayNumber year month day, rest)
  else none

/-- A time of day, as seconds and nanoseconds. -/
def timeOfDay? (text : List Char) : Option (Nat × Nat × List Char) := do
  let (hour, rest) ← field? 2 0 23 text
  let rest ← mark? ':' rest
  let (minute, rest) ← field? 2 0 59 rest
  let rest ← mark? ':' rest
  let (second, rest) ← field? 2 0 60 rest
  let (nanoseconds, rest) ← fraction? rest
  let leap := second = 60
  some (hour * 3600 + minute * 60 + (if leap then 59 else second),
    nanoseconds + (if leap then 1000000000 else 0), rest)

/-- What parts the date from the time of day. -/
def separator? : List Char → Option (List Char)
  | 'T' :: rest => some rest
  | 't' :: rest => some rest
  | ' ' :: rest => some rest
  | _ => none

/-- Read an instant. -/
def parse (text : String) : Option Instant := do
  let (day, rest) ← date? text.toList
  let rest ← separator? rest
  let (second, nanoseconds, rest) ← timeOfDay? rest
  let (ahead, rest) ← offset? rest
  let seconds := day * 86400 + second - ahead * 60
  let first := dayNumber firstYear 1 1 * 86400
  let last := dayNumber lastYear 12 31 * 86400 + 86399
  if (skipBlanks rest).isEmpty ∧ first ≤ seconds ∧ seconds ≤ last then
    some ⟨seconds, nanoseconds⟩
  else none

/-! ## Writing -/

/-- A number with zeros in front, up to a width. -/
def padded (width n : Nat) : List Char :=
  let digits := Nat.toDigits 10 n
  List.replicate (width - digits.length) '0' ++ digits

/-- A year; one of other than four digits has its sign. -/
def yearText (year : Int) : List Char :=
  if 0 ≤ year ∧ year ≤ 9999 then padded 4 year.toNat
  else (if year < 0 then '-' else '+') :: padded 4 year.natAbs

/-- The part of a second, in threes of digits. -/
def fractionText (nanoseconds : Nat) : List Char :=
  if nanoseconds = 0 then []
  else if nanoseconds % 1000000 = 0 then '.' :: padded 3 (nanoseconds / 1000000)
  else if nanoseconds % 1000 = 0 then '.' :: padded 6 (nanoseconds / 1000)
  else '.' :: padded 9 nanoseconds

/-- The instant in UTC. -/
def render (instant : Instant) : String :=
  let day := instant.seconds.fdiv 86400
  let second := (instant.seconds - day * 86400).toNat
  let (year, month, date) := dateOf day
  let leap := 1000000000 ≤ instant.nanoseconds
  let nanoseconds := if leap then instant.nanoseconds - 1000000000 else instant.nanoseconds
  let shown := second % 60 + (if leap then 1 else 0)
  String.ofList (yearText year ++ '-' :: padded 2 month ++ '-' :: padded 2 date ++
    'T' :: padded 2 (second / 3600) ++ ':' :: padded 2 (second / 60 % 60) ++
    ':' :: padded 2 shown ++ fractionText nanoseconds ++ ['Z'])

end Instant

end ArtifactStaging
