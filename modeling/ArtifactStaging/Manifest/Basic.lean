/-
# ArtifactStaging.Manifest.Basic -- the manifest of a submission

A manifest records what a submission staged, when, and a digest over the
outcome.  The digest covers the canonical JSON of the outcome and nothing else,
so two submissions of the same inputs have the same digest whenever they ran.

The outcome's members stand among the manifest's own.  `parse` reads a manifest:
its own members are read as they come, and every other member is set aside until
the object ends and then read as the outcome.
-/
import ArtifactStaging.Manifest.Outcome
import ArtifactStaging.Time.Instant

set_option autoImplicit false

namespace ArtifactStaging

open Json

/-- Why a manifest cannot be used. -/
inductive ManifestError where
  | io (cause : IoCause)
  | json (fault : Fault)
  | digestMismatch (recorded computed : String)
deriving DecidableEq, Repr

/-- The text of an error. -/
def ManifestError.message : ManifestError → String
  | .io cause => "IO error: " ++ cause.message
  | .json fault => "JSON error: " ++ fault.message
  | .digestMismatch recorded computed =>
      s!"manifest digest mismatch: recorded {recorded}, computed {computed}"

/-- The record of one submission. -/
structure StagingManifest where
  schemaVersion : UInt32
  schemaId : String
  createdAt : Instant
  outcome : StagingOutcome
  /-- The digest that was recorded. -/
  digest : String
deriving DecidableEq

namespace StagingManifest

/-- The version of the manifests written here. -/
def currentVersion : UInt32 := 1

/-- The name of their schema. -/
def currentSchema : String := "shipyard/staging_manifest@1"

/-- The manifest of an outcome. -/
def ofOutcome (createdAt : Instant) (outcome : StagingOutcome) : StagingManifest :=
  ⟨currentVersion, currentSchema, createdAt, outcome, outcome.digest⟩

/-- Whether the recorded digest is that of the outcome. -/
def verify (manifest : StagingManifest) : Except ManifestError Unit :=
  let computed := manifest.outcome.digest
  if computed = manifest.digest then .ok () else .error (.digestMismatch manifest.digest computed)

/-- The manifest as JSON. -/
def toJson (manifest : StagingManifest) : Json :=
  .obj (("schema_version", .int manifest.schemaVersion.toNat) ::
    ("schema_id", .str manifest.schemaId) ::
    ("created_at", .str manifest.createdAt.render) ::
    (manifest.outcome.members ++ [("manifest_sha256", .str manifest.digest)]))

/-- The manifest on many lines. -/
def render (manifest : StagingManifest) : String := manifest.toJson.pretty

/-! ## Reading -/

/-- The members met so far, those of the outcome latest first. -/
structure Draft where
  schemaVersion : Option UInt32
  schemaId : Option String
  createdAt : Option Instant
  digest : Option String
  others : Members

/-- No member yet. -/
def Draft.blank : Draft := ⟨none, none, none, none, []⟩

/-- The manifest, if no member is missing and the others make an outcome. -/
def Draft.complete (draft : Draft) : Except Fault StagingManifest :=
  match draft.schemaVersion, draft.schemaId, draft.createdAt, draft.digest with
  | some schemaVersion, some schemaId, some createdAt, some digest =>
      match StagingOutcome.decode .setAside (.obj draft.others.reverse) with
      | .ok outcome => .ok ⟨schemaVersion, schemaId, createdAt, outcome, digest⟩
      | .error _ => .error .mismatched
  | _, _, _, _ => .error .mismatched

/-- A version in text. -/
def readVersion : Reader UInt32 := fun text => do
  let (n, rest) ← Reader.wholeField 0 Width.most32 text
  .ok (UInt32.ofNat n.toNat, rest)

/-- An instant in text. -/
def readInstant : Reader Instant := fun text => do
  let (raw, rest) ← Reader.textField text
  match Instant.parse raw with
  | some instant => .ok (instant, rest)
  | none => .error .mismatched

/-- One member of a manifest. -/
def readMember (name : String) (draft : Draft) : Reader Draft := fun text =>
  match name with
  | "schema_version" => do
      let (version, rest) ← Reader.freshMember draft.schemaVersion readVersion text
      .ok ({ draft with schemaVersion := some version }, rest)
  | "schema_id" => do
      let (schema, rest) ← Reader.freshMember draft.schemaId Reader.textField text
      .ok ({ draft with schemaId := some schema }, rest)
  | "created_at" => do
      let (instant, rest) ← Reader.freshMember draft.createdAt readInstant text
      .ok ({ draft with createdAt := some instant }, rest)
  | "manifest_sha256" => do
      let (digest, rest) ← Reader.freshMember draft.digest Reader.textField text
      .ok ({ draft with digest := some digest }, rest)
  | name => do
      let (value, rest) ←
        Reader.memberValue (Reader.value .kept (Reader.depthBound - 1)) text
      .ok ({ draft with others := (name, value) :: draft.others }, rest)

/-- A manifest in text. -/
def read : Reader StagingManifest := fun text =>
  match Reader.skipBlanks text with
  | [] => .error .truncated
  | '\x7b' :: rest => do
      let (draft, rest) ←
        Reader.members .kept readMember (rest.length + 1) true Draft.blank rest
      let manifest ← draft.complete
      .ok (manifest, ← Reader.close '\x7d' rest)
  | other => Reader.wrongShape other

/-- Read a manifest from text. -/
def parse (text : String) : Except Fault StagingManifest := Reader.document read text

/-! ## Files -/

/-- Write a manifest to a file. -/
def writeTo (manifest : StagingManifest) (path : String) (files : FileSystem) :
    Except ManifestError FileSystem :=
  (files.writeFile path ⟨Text.utf8Bytes manifest.render.toList, 0⟩).mapError .io

/-- Read a manifest from a file. -/
def readFrom (path : String) (files : FileSystem) : Except ManifestError StagingManifest := do
  let text ← (files.readText path).mapError .io
  (parse text).mapError .json

end StagingManifest

end ArtifactStaging
