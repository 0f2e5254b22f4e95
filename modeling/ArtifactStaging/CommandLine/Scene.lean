/-
# ArtifactStaging.CommandLine.Scene -- a machine to run commands on

A scene is one line of JSON: an object with the user's home directory (`home`), the
working directory (`working`), the directory for temporary files (`temporary`),
the time (`now`), a random number (`random`) and the files of the working
directory in words (`files`).  Each may be missing, and so may the whole line.
-/
import ArtifactStaging.CommandLine.Run
import ArtifactStaging.FileSystem.Description

set_option autoImplicit false

namespace ArtifactStaging.CommandLine

/-- A machine to run commands on. -/
structure Scene where
  around : Surroundings
  files : FileSystem

namespace Scene

/-- The text of a member, or what it is without one. -/
def textOr (scene : Json) (name absent : String) : String :=
  ((scene.member? name).bind Json.text?).getD absent

/-- The milliseconds since 1970 of an instant. -/
def millisOf (instant : Instant) : Int64 :=
  Int64.ofInt (epochMillis instant.seconds instant.nanoseconds)

/-- The scene that a JSON value describes. -/
def ofJson (scene : Json) : Scene :=
  let working := textOr scene "working" "/work"
  let now := (Instant.parse (textOr scene "now" "")).getD ⟨0, 0⟩
  let random := ((scene.member? "random").bind Json.natural?).getD 0
  let blank := FileSystem.blank (RawText.of working).names (millisOf now) 0
  let items := match scene.member? "files" with
    | some (.arr items) => items
    | _ => []
  { around :=
      { home := (scene.member? "home").bind Json.text?
        temporary := textOr scene "temporary" "/tmp"
        working := working
        now := now
        random := random }
    files := blank.makeItems items }

/-- The scene of a line. -/
def parse (line : String) : Option Scene :=
  if line.toList.all Text.isBlank then some (ofJson (.obj []))
  else (Json.parse line).toOption.map ofJson

end Scene

end ArtifactStaging.CommandLine
