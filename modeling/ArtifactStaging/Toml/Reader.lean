/-
# ArtifactStaging.Toml.Reader -- reading a configuration file

A file is a sequence of lines: headers `[table]` and `[[array of tables]]`, and
keys with their values.  Blanks, comments and empty lines may stand between
them; an array may run over lines, an inline table may not.  A byte order mark in
front does not count.

`parse` answers the file as JSON, or none if anything in it is wrong.
-/
import ArtifactStaging.Toml.Document
import ArtifactStaging.Toml.Scalar

set_option autoImplicit false

namespace ArtifactStaging.Toml

/-- How many levels arrays, inline tables and dotted keys stay below. -/
def depthBound : Nat := 80

/-! ## Keys -/

/-- One part of a key. -/
def keyPart? (text : List Char) : Option (String × List Char) :=
  match text with
  | '"' :: _ => (shortString? text).map fun (s, rest) => (String.ofList s, rest)
  | '\'' :: _ => (shortString? text).map fun (s, rest) => (String.ofList s, rest)
  | _ =>
      let name := text.takeWhile isBareKeyChar
      if name.isEmpty then none else some (String.ofList name, text.drop name.length)

/-- The parts of a key, parted by dots. -/
def keyParts : (fuel : Nat) → List Char → Option (List String × List Char)
  | 0, _ => none
  | fuel + 1, text => do
      let (part, rest) ← keyPart? (skipBlanks text)
      match skipBlanks rest with
      | '.' :: rest => do
          let (parts, rest) ← keyParts fuel rest
          some (part :: parts, rest)
      | rest => some ([part], rest)

/-- A key: the tables it leads through, and its last part. -/
def key? (text : List Char) : Option (List String × String × List Char) := do
  let (parts, rest) ← keyParts (text.length + 1) text
  let last ← parts.getLast?
  if parts.length < depthBound then some (parts.dropLast, last, rest) else none

/-! ## Values -/

/-- The text after a key's equals sign. -/
def equals? (text : List Char) : Option (List Char) :=
  match text with
  | '=' :: rest => some (skipBlanks rest)
  | _ => none

/-- The elements of an array, up to and with its closing bracket. -/
def elements? (element : Scan Value) : (fuel : Nat) → List Char →
    Option (List Value × List Char)
  | 0, _ => none
  | fuel + 1, text =>
      match skipLines (text.length + 1) text with
      | ']' :: rest => some ([], rest)
      | text => do
          let (first, rest) ← element text
          match skipLines (rest.length + 1) rest with
          | ']' :: rest => some ([first], rest)
          | ',' :: rest => do
              let (others, rest) ← elements? element fuel rest
              some (first :: others, rest)
          | _ => none

/-- The members of an inline table, up to and with its closing brace. -/
def inlineMembers? (element : Scan Value) : (fuel : Nat) → Section → List Char →
    Option (Section × List Char)
  | 0, _, _ => none
  | fuel + 1, table, text => do
      let (path, key, rest) ← key? text
      let (value, rest) ← element (← equals? rest)
      let table ← table.setAt path key value
      match skipBlanks rest with
      | '\x7d' :: rest => some (table, rest)
      | ',' :: rest => inlineMembers? element fuel table rest
      | _ => none

/-- A value, so many levels deep. -/
def valueWithin : (fuel depth : Nat) → Scan Value
  | 0, _, _ => none
  | fuel + 1, depth, text =>
      match text with
      | '[' :: rest =>
          if depth + 1 < depthBound then do
            let (items, rest) ← elements? (valueWithin fuel (depth + 1)) (rest.length + 1) rest
            some (.array items, rest)
          else none
      | '\x7b' :: rest =>
          if depth + 1 < depthBound then
            match skipBlanks rest with
            | '\x7d' :: rest => some (.table [], rest)
            | text => do
                let (table, rest) ←
                  inlineMembers? (valueWithin fuel (depth + 1)) (text.length + 1) .root text
                some (table.toValue, rest)
          else none
      | text => scalar? text

/-- A value. -/
def value? : Scan Value := fun text => valueWithin (text.length + 1) 0 text

/-! ## Lines -/

/-- The text after the rest of a line that holds nothing more than a comment. -/
def endOfLine? (text : List Char) : Option (List Char) :=
  match skipComment (skipBlanks text) with
  | [] => some []
  | rest => lineEnd? rest

/-- A file that is being read: its tables, and the path of the table that lines fill. -/
structure Draft where
  tables : Section
  current : List String

/-- A header after its opening bracket. -/
def header? (draft : Draft) (text : List Char) : Option (Draft × List Char) :=
  match text with
  | '[' :: rest => do
      let (path, key, rest) ← key? rest
      let tables ← draft.tables.change false (Section.openElement key) path
      match rest with
      | ']' :: ']' :: rest => some (⟨tables, path ++ [key]⟩, ← endOfLine? rest)
      | _ => none
  | _ => do
      let (path, key, rest) ← key? text
      let tables ← draft.tables.change false (Section.openTable key) path
      match rest with
      | ']' :: rest => some (⟨tables, path ++ [key]⟩, ← endOfLine? rest)
      | _ => none

/-- A key and its value. -/
def keyValue? (draft : Draft) (text : List Char) : Option (Draft × List Char) := do
  let (path, key, rest) ← key? text
  let (value, rest) ← value? (← equals? rest)
  let tables ← draft.tables.change false (Section.setAt path key value) draft.current
  some ({ draft with tables }, ← endOfLine? rest)

/-- Line after line. -/
def lines? : (fuel : Nat) → Draft → List Char → Option Draft
  | 0, _, _ => none
  | fuel + 1, draft, text =>
      match skipBlanks text with
      | [] => some draft
      | '[' :: rest => do
          let (draft, rest) ← header? draft rest
          lines? fuel draft rest
      | '#' :: rest => do
          let rest ← endOfLine? ('#' :: rest)
          lines? fuel draft rest
      | text =>
          match lineEnd? text with
          | some rest => lines? fuel draft rest
          | none => do
              let (draft, rest) ← keyValue? draft text
              lines? fuel draft rest

/-- The text without a byte order mark. -/
def withoutMark : List Char → List Char
  | '\uFEFF' :: rest => rest
  | text => text

/-- Read a file. -/
def parse (text : String) : Option Json := do
  let text := withoutMark text.toList
  let draft ← lines? (text.length + 1) ⟨.root, []⟩ text
  draft.tables.toValue.toJson?

end ArtifactStaging.Toml
