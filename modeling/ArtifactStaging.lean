import ArtifactStaging.Artifact.ShipList
import ArtifactStaging.CommandLine.Scene
import ArtifactStaging.FileSystem.Description
import ArtifactStaging.Main
import ArtifactStaging.Proofs.Staging.Accounts
import ArtifactStaging.Proofs.Staging.Determinism
import ArtifactStaging.Proofs.Staging.Repetition
import ArtifactStaging.Storage.Script
import ArtifactStaging.Proofs.Location.Joining
import ArtifactStaging.Proofs.Location.ApplicationDirectory
import ArtifactStaging.Proofs.Staging.Provenance
import ArtifactStaging.Proofs.Staging.Confinement
import ArtifactStaging.Proofs.Json.Reading
import ArtifactStaging.Proofs.Location.Rendering
import ArtifactStaging.Proofs.Time.Rendering
import ArtifactStaging.Proofs.CommandLine.ReadingBack
import ArtifactStaging.Proofs.CommandLine.SharedRecords
import ArtifactStaging.Proofs.Staging.Coverage
import ArtifactStaging.Proofs.Manifest.Binding
import ArtifactStaging.Proofs.Location.Separation
import ArtifactStaging.Proofs.Staging.Waiting
import ArtifactStaging.Proofs.Staging.Uploading
import ArtifactStaging.Proofs.FileSystem.Copying
import ArtifactStaging.Proofs.Staging.Contents
import ArtifactStaging.Proofs.Staging.Libraries
import ArtifactStaging.Proofs.Config.Merging
import ArtifactStaging.Proofs.Staging.Walking
import ArtifactStaging.Proofs.Staging.RemoteDirectories
import ArtifactStaging.Proofs.FileSystem.Descending
import ArtifactStaging.Proofs.Staging.LocalDirectories
import ArtifactStaging.Proofs.Storage.Effects
import ArtifactStaging.Proofs.Staging.Framing
import ArtifactStaging.Proofs.Staging.Prefixes
import ArtifactStaging.Proofs.Staging.LocalSources
import ArtifactStaging.Proofs.Staging.Rooting
import ArtifactStaging.Proofs.DistBundle.Rules
import ArtifactStaging.Proofs.Staging.StagedPaths
import ArtifactStaging.Proofs.Staging.BundleNames
import ArtifactStaging.Proofs.Artifact.ShipList
import ArtifactStaging.Proofs.Config.Sufficiency
import ArtifactStaging.Proofs.Location.Grammar
import ArtifactStaging.Proofs.Staging.Arguments
import ArtifactStaging.Proofs.ResourceTable
import ArtifactStaging.Proofs.Staging.ProvidedLibraries
import ArtifactStaging.Proofs.Location.NormalForm
import ArtifactStaging.Proofs.Storage.RecursiveListing
import ArtifactStaging.Proofs.Location.Relative
import ArtifactStaging.Proofs.Location.Segments
import ArtifactStaging.Proofs.Storage.Backing
import ArtifactStaging.Proofs.Staging.Opening
import ArtifactStaging.Proofs.Staging.Overlaps
