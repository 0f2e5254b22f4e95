/-
# ArtifactStaging.Manifest.Outcome -- everything one submission staged
-/
import ArtifactStaging.Application
import ArtifactStaging.Digest.Sha256
import ArtifactStaging.Json.Canonical
import ArtifactStaging.Staging.Uploader

set_option autoImplicit false

namespace ArtifactStaging

open Json

/-- Everything one submission staged. -/
structure StagingOutcome where
  applicationId : ApplicationId
  applicationDirectory : Location
  providedClasspath : List String
  classpath : List String
  shipped : List ArtifactDescriptor
  remotePaths : List Location
  resources : ResourceTable
deriving DecidableEq

namespace StagingOutcome

/-- A list of texts as JSON. -/
def texts (items : List String) : Json := .arr (items.map Json.str)

/-- The members of an outcome. -/
def members (outcome : StagingOutcome) : Members :=
  [("application_id", .str outcome.applicationId.text),
    ("application_dir", .str outcome.applicationDirectory.render),
    ("provided_classpath", texts outcome.providedClasspath),
    ("classpath", texts outcome.classpath),
    ("shipped", .arr (outcome.shipped.map ArtifactDescriptor.toJson)),
    ("remote_paths", texts (outcome.remotePaths.map Location.render)),
    ("resources", outcome.resources.toJson)]

/-- The outcome as JSON. -/
def toJson (outcome : StagingOutcome) : Json := .obj outcome.members

/-- The fields of an outcome. -/
def record (intake : Intake) : Json.Record where
  name := "StagingOutcome"
  fields :=
    [.required "application_id" ApplicationId.decode,
      .required "application_dir" Location.decode,
      .required "provided_classpath" (Decoder.list Decoder.text),
      .required "classpath" (Decoder.list Decoder.text),
      .required "shipped" (Decoder.list (ArtifactDescriptor.decode intake)),
      .required "remote_paths" (Decoder.list Location.decode),
      .required "resources" (ResourceTable.decode intake)]

/-- An outcome in a JSON value. -/
def decode (intake : Intake) : Decoder StagingOutcome := fun value => do
  let members ← (record intake).read value
  .ok {
    applicationId := ← Record.get members "application_id" ApplicationId.decode
    applicationDirectory := ← Record.get members "application_dir" Location.decode
    providedClasspath :=
      ← Record.get members "provided_classpath" (Decoder.list Decoder.text)
    classpath := ← Record.get members "classpath" (Decoder.list Decoder.text)
    shipped := ← Record.get members "shipped" (Decoder.list (ArtifactDescriptor.decode intake))
    remotePaths := ← Record.get members "remote_paths" (Decoder.list Location.decode)
    resources := ← Record.get members "resources" (ResourceTable.decode intake) }

/-- What a submission staged. -/
def ofSubmission {σ : Type} (uploader : Uploader) (providedClasspath classpath : List String)
    (submission : Submission σ) : StagingOutcome where
  applicationId := uploader.applicationId
  applicationDirectory := uploader.applicationDirectory
  providedClasspath := providedClasspath
  classpath := classpath
  shipped := submission.shipment.descriptors
  remotePaths := submission.shipment.remotePaths
  resources := submission.resources

/-- The bytes that the digest of an outcome covers: its canonical JSON. -/
def digestedBytes (outcome : StagingOutcome) : List UInt8 := outcome.toJson.canonicalBytes

/-- The digest of an outcome. -/
def digest (outcome : StagingOutcome) : String := Sha256.hex outcome.digestedBytes

end StagingOutcome

end ArtifactStaging
