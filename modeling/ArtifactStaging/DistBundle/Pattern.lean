/-
# ArtifactStaging.DistBundle.Pattern -- which file is the distribution bundle

The distribution bundle is staged by itself, so bulk staging and the classpath
of shared libraries leave out every file whose name starts with one text and
ends with another.  The two may overlap.  Each end is a glob of its own: the
escaped text with `*` on the open side.  Escaping does not cover the backslash,
so in a rule a backslash changes the meaning of what follows it.
-/
import ArtifactStaging.DistBundle.Glob
import ArtifactStaging.Json.Decode

set_option autoImplicit false

namespace ArtifactStaging

open Json

/-- How the name of the distribution bundle starts and ends. -/
structure DistBundleRule where
  lead : String
  extension : String
deriving DecidableEq, Repr, Inhabited

namespace DistBundleRule

/-- The rule where none is given. -/
def default : DistBundleRule := ⟨"app-dist", "jar"⟩

/-- The rule as JSON. -/
def toJson (rule : DistBundleRule) : Json :=
  .obj [("prefix", .str rule.lead), ("extension", .str rule.extension)]

/-- The fields of a rule. -/
def record : Json.Record where
  name := "DistBundleRule"
  fields := [.required "prefix" Decoder.text, .required "extension" Decoder.text]

/-- A rule in a JSON value. -/
def decode : Decoder DistBundleRule := fun value => do
  let members ← record.read value
  .ok {
    lead := ← Record.get members "prefix" Decoder.text
    extension := ← Record.get members "extension" Decoder.text }

/-- The glob of names that start right. -/
def leadGlob (rule : DistBundleRule) : List Char := Glob.escape rule.lead.toList ++ ['*']

/-- The glob of names that end right. -/
def extensionGlob (rule : DistBundleRule) : List Char :=
  '*' :: Glob.escape rule.extension.toList

end DistBundleRule

/-- Why a rule makes no pattern: a glob, and what is wrong with it. -/
structure PatternFault where
  glob : String
  fault : GlobFault
deriving DecidableEq, Repr

/-- The text of the fault. -/
def PatternFault.message (failure : PatternFault) : String :=
  "Invalid dist bundle pattern: " ++ failure.fault.message failure.glob

/-- A rule made ready to match. -/
structure DistBundlePattern where
  rule : DistBundleRule
  lead : List Glob.Token
  extension : List Glob.Token

namespace DistBundlePattern

/-- A glob made ready to match. -/
def parseGlob (glob : List Char) : Except PatternFault (List Glob.Token) :=
  (Glob.parse glob).mapError fun fault => ⟨String.ofList glob, fault⟩

/-- Make a rule ready to match. -/
def ofRule (rule : DistBundleRule) : Except PatternFault DistBundlePattern := do
  let lead ← parseGlob rule.leadGlob
  let extension ← parseGlob rule.extensionGlob
  .ok ⟨rule, lead, extension⟩

/-- Whether a file name is that of the distribution bundle. -/
def accepts (pattern : DistBundlePattern) (fileName : String) : Bool :=
  Glob.accepts pattern.lead fileName && Glob.accepts pattern.extension fileName

end DistBundlePattern

end ArtifactStaging
