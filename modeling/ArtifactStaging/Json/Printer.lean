/-
# ArtifactStaging.Json.Printer -- JSON as text

`compact` writes a value without blanks; `pretty` puts every item and member on
a line of its own, two blanks deeper than what encloses it, and leaves an empty
array or object closed.  Members are written in the order of the value.

In a string only the quote, the backslash and the characters below the blank are
escaped: backspace, tab, line feed, form feed and carriage return by a letter,
the others by four hexadecimal digits.
-/
import ArtifactStaging.Json.Basic

set_option autoImplicit false

namespace ArtifactStaging.Json

/-! ## Leaves -/

/-- A hexadecimal digit in lower case. -/
def hexDigit (n : Nat) : Char :=
  if n < 10 then Char.ofNat (48 + n) else Char.ofNat (87 + n)

/-- One character inside a string. -/
def escape (c : Char) : List Char :=
  if c = '"' then ['\\', '"']
  else if c = '\\' then ['\\', '\\']
  else if c = '\x08' then ['\\', 'b']
  else if c = '\t' then ['\\', 't']
  else if c = '\n' then ['\\', 'n']
  else if c = '\x0c' then ['\\', 'f']
  else if c = '\r' then ['\\', 'r']
  else if c.toNat < 32 then
    ['\\', 'u', '0', '0', hexDigit (c.toNat / 16), hexDigit (c.toNat % 16)]
  else [c]

/-- A string with its quotes. -/
def quoted (s : String) : List Char := '"' :: (s.toList.flatMap escape ++ ['"'])

/-- A whole number in decimal. -/
def decimal (n : Int) : List Char :=
  if n < 0 then '-' :: Nat.toDigits 10 n.natAbs else Nat.toDigits 10 n.natAbs

/-! ## On one line -/

mutual

/-- A value without blanks. -/
def compactChars : Json → List Char
  | .null => ['n', 'u', 'l', 'l']
  | .bool true => ['t', 'r', 'u', 'e']
  | .bool false => ['f', 'a', 'l', 's', 'e']
  | .int value => decimal value
  | .float value => (value.render Binary64.jsonStyle).toList
  | .str value => quoted value
  | .arr items => '[' :: compactItems items
  | .obj members => '\x7b' :: compactMembers members

/-- Items up to and with the closing bracket. -/
def compactItems : List Json → List Char
  | [] => [']']
  | [item] => compactChars item ++ [']']
  | item :: rest => compactChars item ++ ',' :: compactItems rest

/-- Members up to and with the closing brace. -/
def compactMembers : List (String × Json) → List Char
  | [] => ['\x7d']
  | [(name, value)] => quoted name ++ ':' :: (compactChars value ++ ['\x7d'])
  | (name, value) :: rest =>
      quoted name ++ ':' :: (compactChars value ++ ',' :: compactMembers rest)

end

/-- The value on one line, without blanks. -/
def compact (value : Json) : String := String.ofList value.compactChars

/-! ## On many lines -/

/-- A line break, then two blanks for each level. -/
def newline (level : Nat) : List Char := '\n' :: List.replicate (2 * level) ' '

mutual

/-- A value whose inner lines stand one level deeper. -/
def prettyChars (level : Nat) : Json → List Char
  | .arr [] => ['[', ']']
  | .arr (item :: rest) =>
      '[' :: (newline (level + 1) ++ prettyChars (level + 1) item ++ prettyItems level rest)
  | .obj [] => ['\x7b', '\x7d']
  | .obj ((name, value) :: rest) =>
      '\x7b' :: (newline (level + 1) ++ quoted name ++ ':' :: ' ' ::
        (prettyChars (level + 1) value ++ prettyMembers level rest))
  | .null => compactChars .null
  | .bool value => compactChars (.bool value)
  | .int value => compactChars (.int value)
  | .float value => compactChars (.float value)
  | .str value => compactChars (.str value)

/-- The items after the first, and the closing bracket on a line of its own. -/
def prettyItems (level : Nat) : List Json → List Char
  | [] => newline level ++ [']']
  | item :: rest =>
      ',' :: (newline (level + 1) ++ prettyChars (level + 1) item ++ prettyItems level rest)

/-- The members after the first, and the closing brace on a line of its own. -/
def prettyMembers (level : Nat) : List (String × Json) → List Char
  | [] => newline level ++ ['\x7d']
  | (name, value) :: rest =>
      ',' :: (newline (level + 1) ++ quoted name ++ ':' :: ' ' ::
        (prettyChars (level + 1) value ++ prettyMembers level rest))

end

/-- The value on many lines. -/
def pretty (value : Json) : String := String.ofList (value.prettyChars 0)

end ArtifactStaging.Json
