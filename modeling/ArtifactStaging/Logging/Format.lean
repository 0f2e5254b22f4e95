/-
# ArtifactStaging.Logging.Format -- how log lines are written
-/
import ArtifactStaging.Json.Decode

set_option autoImplicit false

namespace ArtifactStaging

open Json

/-- How log lines are written. -/
inductive LogFormat where
  | text
  | json
deriving DecidableEq, Repr, Inhabited

/-- Why logging cannot start. -/
inductive LoggerError where
  | invalidFormat (text : String)
  | invalidLevel (text : String)
  /-- Logging was started before. -/
  | alreadyStarted
deriving DecidableEq, Repr

/-- The text of an error. -/
def LoggerError.message : LoggerError → String
  | .invalidFormat text => s!"Invalid logger format: {text} (expected: text|json)"
  | .invalidLevel text => s!"Invalid log level: {text}"
  | .alreadyStarted =>
      "Failed to initialize logger: a global default trace dispatcher has already been set"

namespace LogFormat

/-- The name of a format. -/
def name : LogFormat → String
  | .text => "text"
  | .json => "json"

/-- Every format under its name. -/
def choices : List (String × LogFormat) := [(text.name, text), (json.name, json)]

/-- A format by name, in any case and between blanks. -/
def parse (raw : String) : Except LoggerError LogFormat :=
  match choices.lookup (Text.lowerAscii (Text.trimBlanks raw)) with
  | some format => .ok format
  | none => .error (.invalidFormat raw)

/-- A format in a JSON value: its exact name. -/
def decode : Decoder LogFormat := Decoder.choice .direct choices

/-- The format as JSON. -/
def toJson (format : LogFormat) : Json := .str format.name

end LogFormat

end ArtifactStaging
