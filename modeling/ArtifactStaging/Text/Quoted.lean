/-
# ArtifactStaging.Text.Quoted -- quoted characters and strings

Messages show a character between single quotes and a string between double
quotes.  Inside, the quote in use, the backslash and NUL, tab, line feed and
carriage return are escaped with a backslash, and a character that has no glyph
of its own is written as its code point in lower-case hexadecimal.
-/
import ArtifactStaging.Text.Glyph

set_option autoImplicit false

namespace ArtifactStaging.Text

/-- The digits of `n` in lower-case hexadecimal. -/
def hexDigits (n : Nat) : List Char := Nat.toDigits 16 n

/-- One character between `quote`s. -/
def quoteChar (quote c : Char) : List Char :=
  if c = quote ∨ c = '\\' then ['\\', c]
  else if c = '\x00' then ['\\', '0']
  else if c = '\t' then ['\\', 't']
  else if c = '\n' then ['\\', 'n']
  else if c = '\r' then ['\\', 'r']
  else if isUnprinted c then '\\' :: 'u' :: '\x7b' :: (hexDigits c.toNat ++ ['\x7d'])
  else [c]

/-- A character between single quotes. -/
def quotedChar (c : Char) : String :=
  String.ofList ('\'' :: (quoteChar '\'' c ++ ['\'']))

/-- A string between double quotes. -/
def quotedString (s : String) : String :=
  String.ofList ('"' :: (s.toList.flatMap (quoteChar '"') ++ ['"']))

end ArtifactStaging.Text
