/-
# ArtifactStaging.Toml.Value -- the values of a configuration file

A value is a leaf, a date-time, an array or a table, whose members stand in the
order in which the file first names them.

A date-time can also be written as a table: one whose first member has the name
`momentKey` is the date-time in the string under it, whatever else it holds, and
nothing at all if there is no such string.
-/
import ArtifactStaging.Toml.Moment

set_option autoImplicit false

namespace ArtifactStaging.Toml

/-- A value of a configuration file. -/
inductive Value where
  /-- A string, a number or a truth value. -/
  | leaf (value : Json)
  /-- A date-time, as its text. -/
  | moment (shown : String)
  | array (items : List Value)
  | table (members : List (String × Value))

/-- The name of the member that makes a table a date-time. -/
def momentKey : String := "$__toml_private_datetime"

namespace Value

/-- The date-time in a string, as its text. -/
def momentText? : Value → Option String
  | .leaf (.str text) => momentIn? text
  | _ => none

mutual

/-- The value as JSON; none if a table that should be a date-time is not. -/
def toJson? : Value → Option Json
  | .leaf value => some value
  | .moment shown => some (.str shown)
  | .array items => (itemsJson? items).map .arr
  | .table [] => some (.obj [])
  | .table ((name, first) :: rest) =>
      if name = momentKey then first.momentText?.map .str
      else do
        let value ← toJson? first
        let others ← membersJson? rest
        some (.obj (Json.ofMembers ((name, value) :: others)))

/-- The items of an array, as JSON. -/
def itemsJson? : List Value → Option (List Json)
  | [] => some []
  | item :: rest => do some ((← toJson? item) :: (← itemsJson? rest))

/-- The members of a table, as JSON. -/
def membersJson? : List (String × Value) → Option (List (String × Json))
  | [] => some []
  | (name, value) :: rest => do some ((name, ← toJson? value) :: (← membersJson? rest))

end

end Value

end ArtifactStaging.Toml
