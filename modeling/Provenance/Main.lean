import Provenance.CommandLine.Run
import Provenance.FileSystem.Listing

/-!
The program. The files that it looks at are listed on standard input, and the variables that it
knows are taken from the environment; `PWD` tells the working directory.
-/
namespace Provenance

/-- The names of the variables that the program knows. -/
def knownVariables : List String :=
  ["HOME", "COLUMNS", "LINES", "REVERSETREE_LOG_LEVEL", "REVERSETREE_DEBUG",
    "REVERSETREE_LOCAL_REPOSITORY", "REVERSETREE_RECORD_REVERSE_TREE"]

/-- The environment of this run. -/
def readEnvironment : IO Environment := do
  let assigned ← knownVariables.filterMapM fun name => do
    return (← IO.getEnv name).map (name, ·)
  return { assigned := assigned }

/-- The files that are listed on standard input. -/
def readFiles : IO FileSystem := do
  let working := Path.ofText ((← IO.getEnv "PWD").getD "/")
  let lines ← (← IO.getStdin).lines
  match FileSystem.ofListing? working (lines.toList.filter (· ≠ "")) with
  | some files => return files
  | none => throw (IO.userError "the listing of the files cannot be read")

/-- A host that reads YAML, whose standard output takes every text. It meets no wishes of shells. -/
def CommandLine.Host.plain (env : Environment) : CommandLine.Host where
  env := env
  loader := .yaml
  output := ⟨true, fun _ => .ok ()⟩
  picture := Terminal.shortPicture
  completion := fun _ => ⟨"", .ok none⟩

end Provenance

/-- Runs the program once. -/
def main (arguments : List String) : IO UInt32 := do
  let files ← Provenance.readFiles
  let host := Provenance.CommandLine.Host.plain (← Provenance.readEnvironment)
  let (ending, scene) := (Provenance.CommandLine.run host arguments).run ⟨files, {}, [], "", ""⟩
  (← IO.getStdout).putStr scene.out
  (← IO.getStderr).putStr scene.err
  match ending with
  | .exited status => return UInt32.ofNat status
  | .escaped e => throw (IO.userError s!"{e.kind}: {e.message}")
