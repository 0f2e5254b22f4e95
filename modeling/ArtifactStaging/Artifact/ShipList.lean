/-
# ArtifactStaging.Artifact.ShipList -- the shipped artifacts as one line of text

A container finds the artifacts shipped to it in a variable of its environment:
a JSON array of descriptors.  Blank text stands for none.
-/
import ArtifactStaging.Artifact.Descriptor

set_option autoImplicit false

namespace ArtifactStaging.ShipList

open Json

/-- The descriptors on one line. -/
def encode (descriptors : List ArtifactDescriptor) : String :=
  (Json.arr (descriptors.map ArtifactDescriptor.toJson)).compact

/-- An array of descriptors. -/
def read : Reader (List ArtifactDescriptor) := fun text =>
  match Reader.skipBlanks text with
  | [] => .error .truncated
  | '[' :: rest => do
      let step (done : List ArtifactDescriptor) (text : List Char) := do
        let (descriptor, rest) ← ArtifactDescriptor.read text
        .ok (descriptor :: done, rest)
      let (done, rest) ← Reader.elements step (rest.length + 1) true [] rest
      .ok (done.reverse, ← Reader.close ']' rest)
  | other => Reader.wrongShape other

/-- The descriptors of a line. -/
def decode (text : String) : Except Fault (List ArtifactDescriptor) :=
  if text.toList.all Text.isBlank then .ok [] else Reader.document read text

end ArtifactStaging.ShipList
