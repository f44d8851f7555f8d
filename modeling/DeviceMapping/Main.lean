/-
**The command.**

The outer layer of the command line: it takes the arguments and the variables of the environment,
reads the files that the invocation names, and prints what the command answers. Errors go to the
standard error stream; the exit code is 1 for them and 2 for arguments that make no sense.
-/

import DeviceMapping.Command.Run
import DeviceMapping.Json.Printer

open DeviceMapping

namespace DeviceMapping.Command

/-- The text that explains the command. -/
def helpText : String :=
  "Device property mapping tool\n\n" ++
  "Usage: propmap [-v] [-c CONFIG] [-f FIXTURES] ACTION\n\n" ++
  "  resolve --device ID\n" ++
  "  resolve-product --product ID\n" ++
  "  transform --device ID --payload JSON|@FILE\n" ++
  "  bind-device --device ID --rules FILE\n" ++
  "  bind-product --product ID --rules FILE"

/-- The text that tells the version. -/
def versionText : String := "propmap 0.1.0"

/-- The names of the variables that can matter. -/
def variableNames : List String :=
  ["PROPMAP_FIXTURES", "RUST_LOG"] ++
    (Settings.sections.map fun (name, fields) =>
      fields.map fun field => Environment.marker ++ (name ++ "__" ++ field).toUpper).flatten

/-- The variables of the environment that can matter. -/
def readEnvironment : IO (List (String × String)) := do
  let values ← variableNames.mapM fun name => do return (name, ← IO.getEnv name)
  return values.filterMap fun (name, value) => value.map (name, ·)

/-- The files with what is found at a path. -/
def readPath (files : Files) (path : String) : IO Files := do
  match ← (IO.FS.readFile path).toBaseIO with
  | .ok text => return files.add path text
  | .error _ =>
    match ← (IO.FS.realPath path).toBaseIO with
    | .ok real => return if ← real.isDir then files.addFolder path else files
    | .error _ => return files

/-- Prints the answer of a command. -/
def print (printed : Printed) : IO Unit := do
  IO.println printed.title
  IO.println printed.value.pretty
  printed.notes.forM fun note => IO.println note

/-- Runs the command with the arguments given, and returns its exit code. -/
def answer (arguments : List String) : IO UInt32 := do
  let environment ← readEnvironment
  match Arguments.parse environment arguments with
  | .error .help => IO.println helpText; return 0
  | .error .version => IO.println versionText; return 0
  | .error .unusable => IO.eprintln helpText; return 2
  | .ok invocation =>
    match run (← (paths invocation).foldlM readPath .empty) environment invocation with
    | .ok printed => print printed; return 0
    | .error error => IO.eprintln ("Error: " ++ error.message); return 1

end DeviceMapping.Command

def main (arguments : List String) : IO UInt32 :=
  Command.answer arguments
