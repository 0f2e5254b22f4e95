/-
# ArtifactStaging.Artifact.Descriptor -- what was staged, and how it is described

An artifact is described by its key in the application's resource namespace and
by what the resource manager is handed for it: where it lives, how large it is,
when it was last changed and who may reuse it.  The resource manager's record is
the descriptor without its key.

`toJson` writes a descriptor, `decode` reads it out of a JSON value, and
`readText` reads it straight from text, where a field of the wrong shape is
refused before the text after it is looked at.
-/
import ArtifactStaging.Json.Decode
import ArtifactStaging.Json.Reader
import ArtifactStaging.Storage.Error
import ArtifactStaging.Storage.Status

set_option autoImplicit false

namespace ArtifactStaging

open Json

/-- A location in a JSON value: its text, read again. -/
def Location.decode : Decoder Location :=
  Decoder.textWith fun raw => (Location.parse raw).mapError StorageError.message

/-! ## Visibility -/

/-- Who may reuse an artifact on a worker node. -/
inductive Visibility where
  /-- One application only. -/
  | application
  /-- Every application on the node. -/
  | shared
deriving DecidableEq, Repr, Inhabited

namespace Visibility

/-- The name of a visibility. -/
def name : Visibility → String
  | .application => "APPLICATION"
  | .shared => "PUBLIC"

/-- Every visibility under its name. -/
def choices : List (String × Visibility) :=
  [(application.name, application), (shared.name, shared)]

/-- A visibility in a JSON value. -/
def decode (intake : Intake) : Decoder Visibility := Decoder.choice intake choices

end Visibility

/-! ## The resource manager's record -/

/-- What the resource manager is handed for one artifact. -/
structure LocalResource where
  path : Location
  size : UInt64
  modificationTime : Int64
  visibility : Visibility
deriving DecidableEq, Repr, Inhabited

namespace LocalResource

/-- The record as JSON. -/
def toJson (resource : LocalResource) : Json :=
  .obj [("path", .str resource.path.render), ("size", .int resource.size.toNat),
    ("modification_time", .int resource.modificationTime.toInt),
    ("visibility", .str resource.visibility.name)]

/-- The fields of the record. -/
def record (intake : Intake) : Json.Record where
  name := "LocalResource"
  fields :=
    [.required "path" Location.decode, .required "size" Decoder.word64,
      .required "modification_time" Decoder.signed64,
      .required "visibility" (Visibility.decode intake)]

/-- The record in a JSON value. -/
def decode (intake : Intake) : Decoder LocalResource := fun value => do
  let members ← (record intake).read value
  .ok {
    path := ← Record.get members "path" Location.decode
    size := ← Record.get members "size" Decoder.word64
    modificationTime := ← Record.get members "modification_time" Decoder.signed64
    visibility := ← Record.get members "visibility" (Visibility.decode intake) }

end LocalResource

/-! ## Descriptors -/

/-- An artifact under its key. -/
structure ArtifactDescriptor where
  key : String
  path : Location
  size : UInt64
  modificationTime : Int64
  visibility : Visibility
deriving DecidableEq, Repr, Inhabited

namespace ArtifactDescriptor

/-- The description of what storage shows. -/
def ofStatus (key : String) (status : FileStatus) (visibility : Visibility) :
    ArtifactDescriptor :=
  ⟨key, status.path, status.size, status.modificationTime, visibility⟩

/-- The resource manager's record of an artifact. -/
def toLocalResource (descriptor : ArtifactDescriptor) : LocalResource :=
  ⟨descriptor.path, descriptor.size, descriptor.modificationTime, descriptor.visibility⟩

/-- The descriptor as JSON. -/
def toJson (descriptor : ArtifactDescriptor) : Json :=
  .obj [("key", .str descriptor.key), ("path", .str descriptor.path.render),
    ("size", .int descriptor.size.toNat),
    ("modification_time", .int descriptor.modificationTime.toInt),
    ("visibility", .str descriptor.visibility.name)]

/-- The fields of a descriptor. -/
def record (intake : Intake) : Json.Record where
  name := "ArtifactDescriptor"
  fields :=
    [.required "key" Decoder.text, .required "path" Location.decode,
      .required "size" Decoder.word64, .required "modification_time" Decoder.signed64,
      .required "visibility" (Visibility.decode intake)]

/-- A descriptor in a JSON value. -/
def decode (intake : Intake) : Decoder ArtifactDescriptor := fun value => do
  let members ← (record intake).read value
  .ok {
    key := ← Record.get members "key" Decoder.text
    path := ← Record.get members "path" Location.decode
    size := ← Record.get members "size" Decoder.word64
    modificationTime := ← Record.get members "modification_time" Decoder.signed64
    visibility := ← Record.get members "visibility" (Visibility.decode intake) }

/-! ### From text -/

/-- The fields met so far. -/
structure Draft where
  key : Option String
  path : Option Location
  size : Option UInt64
  modificationTime : Option Int64
  visibility : Option Visibility

/-- No field yet. -/
def Draft.blank : Draft := ⟨none, none, none, none, none⟩

/-- All fields, if none is missing. -/
def Draft.complete (draft : Draft) : Except Fault ArtifactDescriptor :=
  match draft.key, draft.path, draft.size, draft.modificationTime, draft.visibility with
  | some key, some path, some size, some modificationTime, some visibility =>
      .ok ⟨key, path, size, modificationTime, visibility⟩
  | _, _, _, _, _ => .error .mismatched

/-- A location in text. -/
def readLocation : Reader Location := fun text => do
  let (raw, rest) ← Reader.textField text
  match Location.parse? raw with
  | some location => .ok (location, rest)
  | none => .error .mismatched

/-- A size in text. -/
def readSize : Reader UInt64 := fun text => do
  let (n, rest) ← Reader.wholeField 0 Width.most64 text
  .ok (UInt64.ofNat n.toNat, rest)

/-- A time in text. -/
def readTime : Reader Int64 := fun text => do
  let (n, rest) ← Reader.wholeField Width.leastSigned64 Width.mostSigned64 text
  .ok (Int64.ofInt n, rest)

/-- A visibility in text. -/
def readVisibility : Reader Visibility :=
  Reader.choiceField fun name => Visibility.choices.lookup name

/-- One member of a descriptor's object; a member of another name is passed over. -/
def readMember (name : String) (draft : Draft) : Reader Draft := fun text =>
  match name with
  | "key" => do
      let (key, rest) ← Reader.freshMember draft.key Reader.textField text
      .ok ({ draft with key := some key }, rest)
  | "path" => do
      let (path, rest) ← Reader.freshMember draft.path readLocation text
      .ok ({ draft with path := some path }, rest)
  | "size" => do
      let (size, rest) ← Reader.freshMember draft.size readSize text
      .ok ({ draft with size := some size }, rest)
  | "modification_time" => do
      let (time, rest) ← Reader.freshMember draft.modificationTime readTime text
      .ok ({ draft with modificationTime := some time }, rest)
  | "visibility" => do
      let (visibility, rest) ← Reader.freshMember draft.visibility readVisibility text
      .ok ({ draft with visibility := some visibility }, rest)
  | _ => do .ok (draft, ← Reader.skipMember text)

/-- A descriptor in text: an object of its fields, or an array of them in order. -/
def read : Reader ArtifactDescriptor := fun text =>
  match Reader.skipBlanks text with
  | [] => .error .truncated
  | '\x7b' :: rest => do
      let (draft, rest) ←
        Reader.members .kept readMember (rest.length + 1) true Draft.blank rest
      let descriptor ← draft.complete
      .ok (descriptor, ← Reader.close '\x7d' rest)
  | '[' :: rest => do
      let (key, rest) ← Reader.nextField true Reader.textField rest
      let (path, rest) ← Reader.nextField false readLocation rest
      let (size, rest) ← Reader.nextField false readSize rest
      let (time, rest) ← Reader.nextField false readTime rest
      let (visibility, rest) ← Reader.nextField false readVisibility rest
      .ok (⟨key, path, size, time, visibility⟩, ← Reader.close ']' rest)
  | other => Reader.wrongShape other

/-- The descriptor on one line. -/
def render (descriptor : ArtifactDescriptor) : String := descriptor.toJson.compact

/-- Read a descriptor from text. -/
def parse (text : String) : Except Fault ArtifactDescriptor := Reader.document read text

end ArtifactDescriptor

end ArtifactStaging
