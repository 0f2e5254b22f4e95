/-
# ArtifactStaging.Toml.Document -- the tables of a configuration file

A file says step by step where its values go: a header opens a table, or one
more table of an array, and a line puts a value under a key, which may lead
through tables by dots.  What may be opened or filled depends on how a table
came to be.

* A table that a header led through may still be opened, once.
* A table that a dotted key led through may be led through by other keys, and
  never opened.
* A table that was opened takes keys only beneath its own header.
* A value is set once, and nothing leads through it.
* What leads through an array of tables goes to the last of them.
-/
import ArtifactStaging.Toml.Value

set_option autoImplicit false

namespace ArtifactStaging.Toml

/-- What stands under a key. -/
inductive Node where
  | value (value : Value)
  /-- A table, its last member first; `implied` while no header opened it, `dotted` when a
  key led through it. -/
  | table (implied dotted : Bool) (members : List (String × Node))
  /-- An array of tables, the last one first. -/
  | tables (members : List (List (String × Node)))

/-- A table that is being filled; its last member stands first. -/
structure Section where
  implied : Bool
  dotted : Bool
  members : List (String × Node)

namespace Section

/-- A file before its first line. -/
def root : Section := ⟨false, false, []⟩

/-- What stands under a key. -/
def find? (key : String) (table : Section) : Option Node := table.members.lookup key

/-- Add something under a key that is new. -/
def add (key : String) (node : Node) (table : Section) : Section :=
  { table with members := (key, node) :: table.members }

/-- Put something else in the place of what stands under a key. -/
def replace (key : String) (node : Node) (table : Section) : Section :=
  { table with
    members := table.members.map fun (other, old) => (other, if other = key then node else old) }

/-- Take away what stands under a key. -/
def remove (key : String) (table : Section) : Section :=
  { table with members := table.members.filter fun (other, _) => other != key }

/-- The section as what stands under a key. -/
def toNode (table : Section) : Node := .table table.implied table.dotted table.members

/-- Change the table that a path leads to; by dots, if it is the path of a key. -/
def change (byDots : Bool) (apply : Section → Option Section) : (path : List String) →
    Section → Option Section
  | [], table => apply table
  | key :: path, table =>
      match table.find? key with
      | none => do
          let inner ← change byDots apply path ⟨true, byDots, []⟩
          some (table.add key inner.toNode)
      | some (.value _) => none
      | some (.tables []) => none
      | some (.tables (last :: earlier)) => do
          let inner ← change byDots apply path ⟨false, false, last⟩
          some (table.replace key (.tables (inner.members :: earlier)))
      | some (.table implied dotted members) =>
          if byDots && !implied then none
          else do
            let inner ← change byDots apply path ⟨implied, dotted, members⟩
            some (table.replace key inner.toNode)

/-- Open a table under a key; one that a header led through becomes the last member. -/
def openTable (key : String) (table : Section) : Option Section :=
  match table.find? key with
  | none => some (table.add key (.table false false []))
  | some (.table true false members) =>
      some ((table.remove key).add key (.table false false members))
  | some _ => none

/-- Open one more table of an array under a key. -/
def openElement (key : String) (table : Section) : Option Section :=
  match table.find? key with
  | none => some (table.add key (.tables [[]]))
  | some (.tables elements) => some (table.replace key (.tables ([] :: elements)))
  | some _ => none

/-- Set the value of a key; `led` when dots led to its table. -/
def setValue (led : Bool) (key : String) (value : Value) (table : Section) : Option Section :=
  if table.dotted != led then none
  else match table.find? key with
    | none => some (table.add key (.value value))
    | some _ => none

/-- Set the value at the end of a dotted key. -/
def setAt (path : List String) (key : String) (value : Value) : Section → Option Section :=
  change true (setValue (!path.isEmpty) key value) path

end Section

mutual

/-- What stands under a key, as a value. -/
def Node.toValue : Node → Value
  | .value value => value
  | .table _ _ members => .table (memberValues members).reverse
  | .tables elements => .array (elementValues elements).reverse

/-- The members of a table, as values. -/
def memberValues : List (String × Node) → List (String × Value)
  | [] => []
  | (key, node) :: rest => (key, node.toValue) :: memberValues rest

/-- The tables of an array, as values. -/
def elementValues : List (List (String × Node)) → List Value
  | [] => []
  | members :: rest => .table (memberValues members).reverse :: elementValues rest

end

/-- The section as a value. -/
def Section.toValue (table : Section) : Value := table.toNode.toValue

end ArtifactStaging.Toml
