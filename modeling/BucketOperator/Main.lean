import BucketOperator.Bucket.Definition
import BucketOperator.CommandLine.Start

/-!
# The command line

The outer layer: arguments and variables come in, texts and an exit code go out.
-/

namespace BucketOperator

/-- The environment variables that a command line may refer to. -/
def environmentNames : List String :=
  "LEADER_ELECT" :: CommandLine.Setting.all.filterMap CommandLine.Setting.variableName?

/-- The environment of this process. -/
def readEnvironment : IO CommandLine.Environment := do
  let values ← environmentNames.mapM fun name => do return (name, ← IO.getEnv name)
  return fun name => (values.lookup name).join

/-- Write the manifest of bucket records. -/
def writeManifest : IO Unit := do
  IO.FS.createDirAll Bucket.manifestFolder
  let path := Bucket.manifestFolder ++ "/" ++ Bucket.manifestFile
  IO.FS.writeFile path (String.join (Bucket.manifest.map (· ++ "\n")))
  for line in Bucket.manifestReport do
    IO.println line

/-- Start the operator. -/
def start (args : List String) : IO UInt32 := do
  let env ← readEnvironment
  match CommandLine.parse args env with
  | .error refusal =>
    if refusal.exitCode = 0 then IO.println refusal.text else IO.eprintln refusal.text
  | .ok _ => pure ()
  let exit := CommandLine.exitWithoutCluster args env
  match exit.error with
  | some message => IO.eprintln ("Error: " ++ message)
  | none => pure ()
  return exit.code.toUInt32

end BucketOperator

def main (args : List String) : IO UInt32 := BucketOperator.start args
