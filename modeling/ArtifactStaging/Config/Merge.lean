/-
# ArtifactStaging.Config.Merge -- layers of configuration on top of each other

An object on top of an object is merged member by member.  Anything else on top
takes the place of what is below: arrays are not joined, and null counts as a
value.
-/
import ArtifactStaging.Json.Basic

set_option autoImplicit false

namespace ArtifactStaging.Config

open Json

mutual

/-- One value on top of another. -/
def merge (below : Json) : Json → Json
  | .obj above =>
      match below with
      | .obj members => .obj (mergeMembers members above)
      | _ => .obj above
  | .null => .null
  | .bool value => .bool value
  | .int value => .int value
  | .float value => .float value
  | .str value => .str value
  | .arr items => .arr items

/-- Members on top of members. -/
def mergeMembers (below : Members) : Members → Members
  | [] => below
  | (name, value) :: rest =>
      let merged := match lookup name below with
        | some old => merge old value
        | none => value
      mergeMembers (insert name merged below) rest

end

/-- Layers from the lowest to the highest. -/
def mergeLayers (layers : List Json) : Json := layers.foldl merge .null

end ArtifactStaging.Config
