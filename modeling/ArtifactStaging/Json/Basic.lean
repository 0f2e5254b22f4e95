/-
# ArtifactStaging.Json.Basic -- JSON values

A value is null, a truth value, a whole number, a double, a string, an array or
an object.  An object is its list of members.  Text that was read keeps the
order of its members and any repeated name; `ordered` brings a value into the
form configuration works with, in which names are unique and in code point
order, the last of equal names counting.
-/
import ArtifactStaging.Number.Binary64
import ArtifactStaging.Number.Power

set_option autoImplicit false

namespace ArtifactStaging

/-- A JSON value. -/
inductive Json where
  | null
  | bool (value : Bool)
  | int (value : Int)
  | float (value : Binary64)
  | str (value : String)
  | arr (items : List Json)
  | obj (members : List (String × Json))
deriving Repr, Inhabited, BEq

namespace Json

/-- The members of an object. -/
abbrev Members := List (String × Json)

/-- The value under a name; the first one counts. -/
def lookup (name : String) : Members → Option Json
  | [] => none
  | (other, value) :: rest => if other = name then some value else lookup name rest

/-- Put a value under a name, in the place that keeps names in order. -/
def insert (name : String) (value : Json) : Members → Members
  | [] => [(name, value)]
  | (other, old) :: rest =>
      if name = other then (name, value) :: rest
      else if name < other then (name, value) :: (other, old) :: rest
      else (other, old) :: insert name value rest

/-- The members in order, the last of equal names counting. -/
def ofMembers (members : Members) : Members :=
  members.foldl (fun done (name, value) => insert name value done) []

mutual

/-- The value with the members of every object in order. -/
def ordered : Json → Json
  | .arr items => .arr (orderedItems items)
  | .obj members => .obj (orderedMembers [] members)
  | .null => .null
  | .bool value => .bool value
  | .int value => .int value
  | .float value => .float value
  | .str value => .str value

/-- Every item in order. -/
def orderedItems : List Json → List Json
  | [] => []
  | item :: rest => ordered item :: orderedItems rest

/-- The members added to those that are done. -/
def orderedMembers (done : Members) : Members → Members
  | [] => done
  | (name, value) :: rest => orderedMembers (insert name (ordered value) done) rest

end

/-- The member of an object; none for any other value. -/
def member? (name : String) : Json → Option Json
  | .obj members => lookup name members
  | _ => none

/-- Follow names from member to member. -/
def follow? : List String → Json → Option Json
  | [], value => some value
  | name :: rest, value =>
      match value.member? name with
      | some inner => follow? rest inner
      | none => none

/-- A whole number that is not negative and fits 64 bits. -/
def natural? : Json → Option Nat
  | .int value => if 0 ≤ value ∧ value ≤ Width.most64 then some value.toNat else none
  | _ => none

/-- The text of a string. -/
def text? : Json → Option String
  | .str value => some value
  | _ => none

end Json

end ArtifactStaging
