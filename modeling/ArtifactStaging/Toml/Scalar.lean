/-
# ArtifactStaging.Toml.Scalar -- strings and numbers of a configuration file

Each reader takes the text that is left and answers what it read with the text
that is left then; none where nothing of its kind starts.

* A basic string has escapes, a literal string has none; written with three
  quotes either may run over lines.  A line ends in a line feed, which a carriage
  return may precede; the value holds the line feed alone.
* Digits may be parted by single underscores.  A whole number fits 64 bits with
  its sign; a double is the one nearest to what is written, and none is beyond
  the largest.  Infinities and not-a-number have no place in JSON and become null.

`scalar?` reads any of them, or a date-time.
-/
import ArtifactStaging.Json.Reader
import ArtifactStaging.Toml.Value

set_option autoImplicit false

namespace ArtifactStaging.Toml

/-! ## Characters -/

/-- The blanks within a line. -/
def isBlank (c : Char) : Bool := c == ' ' || c == '\t'

/-- A character of a comment or string: no control character but the tab. -/
def isPrinted (c : Char) : Bool := c == '\t' || (32 ≤ c.toNat && c.toNat != 127)

/-- A character of a key without quotes. -/
def isBareKeyChar (c : Char) : Bool := c.isAlphanum || c == '_' || c == '-'

/-- The text without blanks in front. -/
def skipBlanks (text : List Char) : List Char := text.dropWhile isBlank

/-- The text after the end of a line, if one is here. -/
def lineEnd? : List Char → Option (List Char)
  | '\n' :: rest => some rest
  | '\r' :: '\n' :: rest => some rest
  | _ => none

/-- The text after a comment, if one is here; its line is not ended yet. -/
def skipComment : List Char → List Char
  | '#' :: rest => rest.dropWhile isPrinted
  | text => text

/-- Skip blanks, comments and ends of lines. -/
def skipLines : (fuel : Nat) → List Char → List Char
  | 0, text => text
  | fuel + 1, text =>
      let text := skipComment (skipBlanks text)
      match lineEnd? text with
      | some rest => skipLines fuel rest
      | none => text

/-! ## Strings -/

/-- A character given by so many hexadecimal digits; none for half a surrogate pair. -/
def codePoint? (count : Nat) (text : List Char) : Option (Char × List Char) :=
  let digits := text.take count
  if digits.length = count then
    match digits.mapM Text.hexValue? with
    | none => none
    | some values =>
        let n := values.foldl (fun n d => n * 16 + d) 0
        if n.isValidChar then some (Char.ofNat n, text.drop count) else none
  else none

/-- What a backslash and the characters after it stand for. -/
def escape? : Scan Char
  | 'b' :: rest => some ('\x08', rest)
  | 't' :: rest => some ('\t', rest)
  | 'n' :: rest => some ('\n', rest)
  | 'f' :: rest => some ('\x0c', rest)
  | 'r' :: rest => some ('\r', rest)
  | '"' :: rest => some ('"', rest)
  | '\\' :: rest => some ('\\', rest)
  | 'u' :: rest => codePoint? 4 rest
  | 'U' :: rest => codePoint? 8 rest
  | _ => none

/-- The rest of a basic string on one line. -/
def basicBody : (fuel : Nat) → Scan (List Char)
  | 0, _ => none
  | _ + 1, [] => none
  | _ + 1, '"' :: rest => some ([], rest)
  | fuel + 1, '\\' :: rest => do
      let (c, rest) ← escape? rest
      let (more, rest) ← basicBody fuel rest
      some (c :: more, rest)
  | fuel + 1, c :: rest =>
      if isPrinted c then do
        let (more, rest) ← basicBody fuel rest
        some (c :: more, rest)
      else none

/-- The rest of a literal string on one line. -/
def literalBody (text : List Char) : Option (List Char × List Char) :=
  let body := text.takeWhile fun c => isPrinted c && c != '\''
  match text.drop body.length with
  | '\'' :: rest => some (body, rest)
  | _ => none

/-- The text without blanks and line ends in front. -/
def skipSpace : List Char → List Char
  | ' ' :: rest => skipSpace rest
  | '\t' :: rest => skipSpace rest
  | '\n' :: rest => skipSpace rest
  | '\r' :: '\n' :: rest => skipSpace rest
  | text => text

/-- The text after the blanks and line ends that a backslash at the end of a line takes away;
none when the line goes on. -/
def joinedLines? (text : List Char) : Option (List Char) :=
  (lineEnd? (skipBlanks text)).map skipSpace

/-- How a string over many lines ends at a run of quotes: with as many of them inside as the
closing three leave, two at most. -/
def closingQuotes (quote : Char) (run : Nat) (rest : List Char) : List Char × List Char :=
  let inside := min (run - 3) 2
  (List.replicate inside quote, List.replicate (run - 3 - inside) quote ++ rest)

/-- The rest of a string over many lines. -/
def longBody (quote : Char) (escapes : Bool) : (fuel : Nat) → Scan (List Char)
  | 0, _ => none
  | _ + 1, [] => none
  | fuel + 1, c :: rest =>
      if c = quote then
        let run := (rest.takeWhile (· == quote)).length + 1
        let after := rest.drop (run - 1)
        if 3 ≤ run then some (closingQuotes quote run after)
        else do
          let (more, rest) ← longBody quote escapes fuel after
          some (List.replicate run quote ++ more, rest)
      else if c = '\\' ∧ escapes then
        match joinedLines? rest with
        | some rest => longBody quote escapes fuel rest
        | none => do
            let (c, rest) ← escape? rest
            let (more, rest) ← longBody quote escapes fuel rest
            some (c :: more, rest)
      else
        match lineEnd? (c :: rest) with
        | some rest => do
            let (more, rest) ← longBody quote escapes fuel rest
            some ('\n' :: more, rest)
        | none =>
            if isPrinted c then do
              let (more, rest) ← longBody quote escapes fuel rest
              some (c :: more, rest)
            else none

/-- A string over many lines whose opening quotes were seen; a line end right after them does
not count. -/
def longString (quote : Char) (escapes : Bool) (text : List Char) :
    Option (List Char × List Char) :=
  let text := (lineEnd? text).getD text
  longBody quote escapes (text.length + 1) text

/-- A string on one line. -/
def shortString? : Scan (List Char)
  | '"' :: rest => basicBody (rest.length + 1) rest
  | '\'' :: rest => literalBody rest
  | _ => none

/-- A string. -/
def string? : Scan (List Char)
  | '"' :: '"' :: '"' :: rest => longString '"' true rest
  | '\'' :: '\'' :: '\'' :: rest => longString '\'' false rest
  | text => shortString? text

/-! ## Numbers -/

/-- Digits of a base, parted by single underscores. -/
def digitRun (isDigit : Char → Bool) : List Char → List Char × List Char
  | '_' :: c :: rest =>
      if isDigit c then
        let (digits, rest) := digitRun isDigit rest
        (c :: digits, rest)
      else ([], '_' :: c :: rest)
  | c :: rest =>
      if isDigit c then
        let (digits, rest) := digitRun isDigit rest
        (c :: digits, rest)
      else ([], c :: rest)
  | [] => ([], [])

/-- One digit or more. -/
def digits? (isDigit : Char → Bool) : Scan (List Char)
  | c :: rest => if isDigit c then some (digitRun isDigit (c :: rest)) else none
  | [] => none

/-- A sign, if there is one: whether it is a minus. -/
def sign : List Char → Bool × List Char
  | '-' :: rest => (true, rest)
  | '+' :: rest => (false, rest)
  | text => (false, text)

/-- Decimal digits without a leading zero. -/
def wholeDigits? : Scan (List Char)
  | '0' :: rest => some (['0'], rest)
  | text => digits? Char.isDigit text

/-- A number in the digits of a base, if it fits 64 bits with a sign. -/
def based? (base : Nat) (text : List Char) : Option (Json × List Char) := do
  let isDigit (c : Char) : Bool := (Text.hexValue? c).any (· < base)
  let (digits, rest) ← digits? isDigit text
  let n := digits.foldl (fun n c => n * base + (Text.hexValue? c).getD 0) 0
  if n ≤ Width.mostSigned64 then some (.int n, rest) else none

/-- A whole number. -/
def integer? (text : List Char) : Option (Json × List Char) :=
  match text with
  | '0' :: 'x' :: rest => based? 16 rest
  | '0' :: 'o' :: rest => based? 8 rest
  | '0' :: 'b' :: rest => based? 2 rest
  | _ => do
      let (negative, rest) := sign text
      let (digits, rest) ← wholeDigits? rest
      let n : Int := Json.Reader.digitsValue digits
      let n := if negative then -n else n
      if Width.leastSigned64 ≤ n ∧ n ≤ Width.mostSigned64 then some (.int n, rest) else none

/-- The digits after a point. -/
def fraction? : Scan (List Char)
  | '.' :: rest => digits? Char.isDigit rest
  | _ => none

/-- A power of ten. -/
def exponent? (text : List Char) : Option (Int × List Char) :=
  let body (rest : List Char) : Option (Int × List Char) := do
    let (negative, rest) := sign rest
    let (digits, rest) ← digits? Char.isDigit rest
    let n : Int := Json.Reader.digitsValue digits
    some (if negative then -n else n, rest)
  match text with
  | 'e' :: rest => body rest
  | 'E' :: rest => body rest
  | _ => none

/-- A number with a point, a power of ten or both.  One beyond the largest double is refused
above zero and null below it. -/
def double? (text : List Char) : Option (Json × List Char) := do
  let (negative, rest) := sign text
  let (whole, rest) ← wholeDigits? rest
  let (fraction, exponent, rest) ← match fraction? rest with
    | some (fraction, rest) =>
        match exponent? rest with
        | some (exponent, rest) => some (fraction, exponent, rest)
        | none => some (fraction, 0, rest)
    | none => (exponent? rest).map fun (exponent, rest) => ([], exponent, rest)
  match Binary64.ofDecimal? negative (Json.Reader.digitsValue (whole ++ fraction))
      (exponent - fraction.length) with
  | some x => some (.float x, rest)
  | none => if negative then some (.null, rest) else none

/-- An infinity or not-a-number. -/
def special? (text : List Char) : Option (Json × List Char) :=
  match (sign text).2 with
  | 'i' :: 'n' :: 'f' :: rest => some (.null, rest)
  | 'n' :: 'a' :: 'n' :: rest => some (.null, rest)
  | _ => none

/-! ## Any of them -/

/-- A number, an infinity or not-a-number. -/
def number? (text : List Char) : Option (Json × List Char) :=
  (double? text).or ((special? text).or (integer? text))

/-- A value that is no array or table. -/
def scalar? (text : List Char) : Option (Value × List Char) :=
  match text with
  | '"' :: _ => (string? text).map fun (s, rest) => (.leaf (.str (String.ofList s)), rest)
  | '\'' :: _ => (string? text).map fun (s, rest) => (.leaf (.str (String.ofList s)), rest)
  | 't' :: 'r' :: 'u' :: 'e' :: rest => some (.leaf (.bool true), rest)
  | 'f' :: 'a' :: 'l' :: 's' :: 'e' :: rest => some (.leaf (.bool false), rest)
  | _ =>
      match moment? text with
      | some (shown, rest) => some (.moment shown, rest)
      | none => (number? text).map fun (value, rest) => (.leaf value, rest)

end ArtifactStaging.Toml
