/-
# ArtifactStaging.Json.Canonical -- the canonical form of a JSON value

One text for each value: no blanks, members sorted by the UTF-16 units of their
names, and every number written as the double nearest to it in its shortest
form.  Two values that differ only in the order of members, or in whole numbers
that round to one double, share a canonical form.
-/
import ArtifactStaging.Json.Printer
import ArtifactStaging.Text.Utf8

set_option autoImplicit false

namespace ArtifactStaging.Json

/-- The UTF-16 units of a character. -/
def units (c : Char) : List Nat :=
  let n := c.toNat
  if n < 0x10000 then [n] else [0xD800 + (n - 0x10000) / 0x400, 0xDC00 + (n - 0x10000) % 0x400]

/-- The UTF-16 units of a text. -/
def unitsOf (s : String) : List Nat := s.toList.flatMap units

/-- Whether one list of units does not come after another. -/
def unitsLe : List Nat → List Nat → Bool
  | [], _ => true
  | _ :: _, [] => false
  | a :: as, b :: bs => if a = b then unitsLe as bs else a < b

/-- The members sorted by the units of their names. -/
def sortByUnits (members : List (String × List Char)) : List (String × List Char) :=
  members.mergeSort fun a b => unitsLe (unitsOf a.1) (unitsOf b.1)

/-- Texts with commas between them. -/
def commaSeparated : List (List Char) → List Char
  | [] => []
  | [item] => item
  | item :: rest => item ++ ',' :: commaSeparated rest

/-- A double in its canonical form. -/
def canonicalNumber (x : Binary64) : List Char := (x.render Binary64.canonicalStyle).toList

mutual

/-- The canonical text of a value. -/
def canonicalChars : Json → List Char
  | .int value => canonicalNumber (.ofInt value)
  | .float value => canonicalNumber value
  | .arr items => '[' :: (commaSeparated (canonicalItems items) ++ [']'])
  | .obj members =>
      let written := sortByUnits (canonicalMembers members)
      '\x7b' :: (commaSeparated (written.map fun (name, text) => quoted name ++ ':' :: text) ++
        ['\x7d'])
  | .null => compactChars .null
  | .bool value => compactChars (.bool value)
  | .str value => quoted value

/-- The canonical text of every item. -/
def canonicalItems : List Json → List (List Char)
  | [] => []
  | item :: rest => canonicalChars item :: canonicalItems rest

/-- The canonical text of every member's value beside its name. -/
def canonicalMembers : List (String × Json) → List (String × List Char)
  | [] => []
  | (name, value) :: rest => (name, canonicalChars value) :: canonicalMembers rest

end

/-- The canonical form as bytes. -/
def canonicalBytes (value : Json) : List UInt8 := Text.utf8Bytes value.canonicalChars

end ArtifactStaging.Json
