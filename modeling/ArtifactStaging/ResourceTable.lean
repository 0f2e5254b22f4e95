/-
# ArtifactStaging.ResourceTable -- the resources of one application

The table handed to the resource manager: for every key the record registered
last.  `register` says what a registration did to its key: nothing was there,
the same record was there, or another was, which it answers.
-/
import ArtifactStaging.Artifact.Descriptor
import ArtifactStaging.Dictionary

set_option autoImplicit false

namespace ArtifactStaging

/-- What a registration did. -/
inductive TableInsert where
  | inserted
  | unchanged
  | replaced (previous : LocalResource)
deriving DecidableEq, Repr

/-- The records under their keys. -/
structure ResourceTable where
  resources : Dictionary String LocalResource
deriving DecidableEq, Inhabited

namespace ResourceTable

/-- No resources. -/
def empty : ResourceTable := ⟨.empty⟩

/-- The record under a key. -/
def get? (table : ResourceTable) (key : String) : Option LocalResource := table.resources.get? key

/-- Whether there is a record under a key. -/
def contains (table : ResourceTable) (key : String) : Bool := table.resources.contains key

/-- How many keys there are. -/
def size (table : ResourceTable) : Nat := table.resources.size

/-- Whether there is no key. -/
def isEmpty (table : ResourceTable) : Bool := table.size == 0

/-- The keys with their records, in the order of the keys. -/
def entries (table : ResourceTable) : List (String × LocalResource) := table.resources.entries

/-- The keys in order. -/
def keys (table : ResourceTable) : List String := table.resources.keys

/-- Put a record under a key. -/
def insert (table : ResourceTable) (key : String) (resource : LocalResource) : ResourceTable :=
  ⟨table.resources.insert key resource⟩

/-- Register a record under a key. -/
def register (table : ResourceTable) (key : String) (resource : LocalResource) :
    TableInsert × ResourceTable :=
  match table.get? key with
  | none => (.inserted, table.insert key resource)
  | some previous =>
      if previous = resource then (.unchanged, table)
      else (.replaced previous, table.insert key resource)

/-- The records registered in order, the last of a key counting. -/
def ofList (entries : List (String × LocalResource)) : ResourceTable :=
  entries.foldl (fun table (key, resource) => table.insert key resource) empty

@[simp] theorem get?_empty (key : String) : empty.get? key = none := rfl

theorem get?_insert (table : ResourceTable) (key other : String) (resource : LocalResource) :
    (table.insert key resource).get? other =
      if key = other then some resource else table.get? other :=
  Dictionary.get?_insert _ _ _ _

/-- After a registration its key holds its record, and every other key what it held. -/
theorem get?_register (table : ResourceTable) (key other : String) (resource : LocalResource) :
    (table.register key resource).2.get? other =
      if key = other then some resource else table.get? other := by
  simp only [register]
  split
  · exact get?_insert _ _ _ _
  · next previous hprevious =>
    split
    · next heq =>
      subst heq
      split
      · next hkey => subst hkey; exact hprevious
      · rfl
    · exact get?_insert _ _ _ _

/-- The table as JSON: an object of its records. -/
def toJson (table : ResourceTable) : Json :=
  .obj (table.entries.map fun (key, resource) => (key, resource.toJson))

/-- The table in a JSON value. -/
def decode (intake : Json.Intake) : Json.Decoder ResourceTable := fun value => do
  .ok (ofList (← Json.Decoder.table (LocalResource.decode intake) value))

end ResourceTable

end ArtifactStaging
