/-
# ArtifactStaging.Main -- the program

Runs the command of its arguments on the machine that the first line of standard
input describes, prints what the command prints, and exits with its code.
-/
import ArtifactStaging.CommandLine.Scene

set_option autoImplicit false

open ArtifactStaging

/-- Read the scene, run the command, report. -/
def main (arguments : List String) : IO UInt32 := do
  let line ← (← IO.getStdin).getLine
  match CommandLine.Scene.parse line with
  | none =>
      IO.eprintln "Error: the first line of standard input describes no machine"
      return 2
  | some scene =>
      let (report, _) := CommandLine.run scene.around arguments scene.files
      IO.print report.printed
      IO.eprint report.complaint
      return report.code
