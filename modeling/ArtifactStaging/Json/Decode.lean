/-
# ArtifactStaging.Json.Decode -- reading typed data out of JSON values

A decoder answers typed data or the first thing that is wrong.  The members of an
object are looked at in their order, so the first wrong member is reported; only
then are absent fields reported, in the order in which the record declares them.
A record may also be written as an array of its fields in that order, and a
choice among names as an object with that name over null.  In a value that was
set aside before it is read, the object with that name may be over an object
without members as well.

`Record.read` is the one rule for all records: it checks the members against the
declared fields and answers how to look a field up.
-/
import ArtifactStaging.Json.Basic
import ArtifactStaging.Text.Quoted
import ArtifactStaging.Text.Cut

set_option autoImplicit false

namespace ArtifactStaging.Json

/-- What is wrong with a value. -/
inductive DecodeError where
  /-- A value of another kind. -/
  | wrongKind (found expected : String)
  /-- A value of the right kind that does not fit. -/
  | wrongValue (found expected : String)
  | unknownChoice (name : String) (choices : List String)
  | missingField (name : String)
  | repeatedField (name : String)
  /-- An array of another length than the fields of a record. -/
  | wrongLength (length : Nat) (expected : String)
  /-- The data has a rule of its own that the value breaks. -/
  | refused (reason : String)
deriving DecidableEq, Repr, Inhabited

/-- A name between backticks. -/
def ticked (name : String) : String := "`" ++ name ++ "`"

/-- The text of an error. -/
def DecodeError.message : DecodeError → String
  | .wrongKind found expected => s!"invalid type: {found}, expected {expected}"
  | .wrongValue found expected => s!"invalid value: {found}, expected {expected}"
  | .unknownChoice name choices =>
      s!"unknown variant {ticked name}, expected " ++ Text.join " or " (choices.map ticked)
  | .missingField name => s!"missing field {ticked name}"
  | .repeatedField name => s!"duplicate field {ticked name}"
  | .wrongLength length expected => s!"invalid length {length}, expected {expected}"
  | .refused reason => reason

/-- The kind of a value, as errors name it. -/
def kind : Json → String
  | .null => "null"
  | .bool value => "boolean " ++ ticked (if value then "true" else "false")
  | .int value => "integer " ++ ticked (toString value)
  | .float value => "floating point " ++ ticked (value.render Binary64.jsonStyle)
  | .str value => "string " ++ Text.quotedString value
  | .arr _ => "sequence"
  | .obj _ => "map"

/-- How a value is read. -/
abbrev Decoder (α : Type) := Json → Except DecodeError α

/-- Whether a value is read as it comes, or was set aside before. -/
inductive Intake where
  | direct
  | setAside
deriving DecidableEq, Repr

namespace Decoder

/-! ## Single values -/

/-- A string; `expected` is what the error asks for. -/
def textAs (expected : String) : Decoder String
  | .str value => .ok value
  | other => .error (.wrongKind other.kind expected)

/-- A string. -/
def text : Decoder String := textAs "a string"

/-- A whole number from `least` to `most`, under the name of that range. -/
def whole (expected : String) (least most : Int) : Decoder Int
  | .int value =>
      if least ≤ value ∧ value ≤ most then .ok value
      else .error (.wrongValue (Json.int value).kind expected)
  | other => .error (.wrongKind other.kind expected)

/-- Sixteen bits. -/
def word16 : Decoder UInt16 := fun value => do
  let n ← whole "u16" 0 Width.most16 value
  .ok (UInt16.ofNat n.toNat)

/-- Thirty-two bits. -/
def word32 : Decoder UInt32 := fun value => do
  let n ← whole "u32" 0 Width.most32 value
  .ok (UInt32.ofNat n.toNat)

/-- Sixty-four bits. -/
def word64 : Decoder UInt64 := fun value => do
  let n ← whole "u64" 0 Width.most64 value
  .ok (UInt64.ofNat n.toNat)

/-- Sixty-four bits with a sign. -/
def signed64 : Decoder Int64 := fun value => do
  let n ← whole "i64" Width.leastSigned64 Width.mostSigned64 value
  .ok (Int64.ofInt n)

/-- Null, or something. -/
def optional {α : Type} (decode : Decoder α) : Decoder (Option α)
  | .null => .ok none
  | value => (decode value).map some

/-- Every item of an array, in order. -/
def list {α : Type} (decode : Decoder α) : Decoder (List α)
  | .arr items => items.mapM decode
  | other => .error (.wrongKind other.kind "a sequence")

/-- Every member of an object, in order. -/
def table {α : Type} (decode : Decoder α) : Decoder (List (String × α))
  | .obj members => members.mapM fun (name, value) => do
      let decoded ← decode value
      .ok (name, decoded)
  | other => .error (.wrongKind other.kind "a map")

/-- Text under a rule of its own. -/
def textWith {α : Type} (rule : String → Except String α) : Decoder α := fun value => do
  let s ← text value
  (rule s).mapError .refused

/-- Whether a value may stand under the name of a choice. -/
def isBlankBody (intake : Intake) : Json → Bool
  | .null => true
  | .obj [] => intake == .setAside
  | _ => false

/-- One of several names. -/
def choice {α : Type} (intake : Intake) (choices : List (String × α)) : Decoder α
  | .str name => pick name
  | .obj [(name, value)] => do
      let chosen ← pick name
      if isBlankBody intake value then .ok chosen
      else .error (.wrongKind value.kind "unit")
  | .obj _ => .error (.wrongValue "map" "map with a single key")
  | other => .error (.wrongKind other.kind "string or map")
where
  /-- The choice of a name. -/
  pick (name : String) : Except DecodeError α :=
    match choices.lookup name with
    | some chosen => .ok chosen
    | none => .error (.unknownChoice name (choices.map Prod.fst))

end Decoder

/-! ## Records -/

/-- A field of a record: its name, whether its value is right, and whether it may be absent
from an object and from an array. -/
structure Field where
  name : String
  check : Json → Except DecodeError Unit
  absentInObject : Bool := false
  absentInArray : Bool := false

namespace Field

/-- A field that must be there. -/
def required {α : Type} (name : String) (decode : Decoder α) : Field :=
  { name, check := fun value => (decode value).map fun _ => () }

/-- A field with a value for when it is absent. -/
def defaulted {α : Type} (name : String) (decode : Decoder α) : Field :=
  { name, check := fun value => (decode value).map fun _ => ()
    absentInObject := true, absentInArray := true }

end Field

/-- A record: its name and its fields in order. -/
structure Record where
  name : String
  fields : List Field

namespace Record

/-- Check the members in order; no declared field may come twice. -/
def checkMembers (fields : List Field) : (seen : List String) → Members →
    Except DecodeError Unit
  | _, [] => .ok ()
  | seen, (name, value) :: rest =>
      match fields.find? (·.name == name) with
      | none => checkMembers fields seen rest
      | some field => do
          if seen.contains name then throw (.repeatedField name)
          field.check value
          checkMembers fields (name :: seen) rest

/-- The first required field that is absent. -/
def checkPresence (fields : List Field) (members : Members) : Except DecodeError Unit :=
  match fields.find? fun field => !field.absentInObject && (lookup field.name members).isNone with
  | some field => .error (.missingField field.name)
  | none => .ok ()

/-- Pair the items of an array with the fields in order. -/
def pairItems (expected : String) : (count : Nat) → List Field → List Json →
    Except DecodeError Members
  | _, [], _ => .ok []
  | count, field :: fields, [] =>
      if field.absentInArray then pairItems expected (count + 1) fields []
      else .error (.wrongLength count expected)
  | count, field :: fields, item :: items => do
      field.check item
      let members ← pairItems expected (count + 1) fields items
      .ok ((field.name, item) :: members)

/-- What an array of fields must look like. -/
def arrayForm (record : Record) : String :=
  s!"struct {record.name} with {record.fields.length} elements"

/-- The members of a record that is right in every field. -/
def read (record : Record) : Decoder Members
  | .obj members => do
      checkMembers record.fields [] members
      checkPresence record.fields members
      .ok members
  | .arr items => do
      let members ← pairItems record.arrayForm 0 record.fields items
      if record.fields.length < items.length then
        throw (.wrongLength items.length "fewer elements in array")
      .ok members
  | other => .error (.wrongKind other.kind ("struct " ++ record.name))

/-- A required field of the members that were read. -/
def get {α : Type} (members : Members) (name : String) (decode : Decoder α) :
    Except DecodeError α :=
  match lookup name members with
  | some value => decode value
  | none => .error (.missingField name)

/-- A field of the members that were read, or its value when absent. -/
def getD {α : Type} (members : Members) (name : String) (decode : Decoder α) (absent : α) :
    Except DecodeError α :=
  match lookup name members with
  | some value => decode value
  | none => .ok absent

end Record

end ArtifactStaging.Json
