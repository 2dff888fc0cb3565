import Gatehouse.Lifecycle.Startup
import Gatehouse.Operator.Run
import Std.Time.DateTime.Timestamp

/-!
# The command line

The commands of the operator, and the word `start`, which tells what a start of the gateway would log
until it is interrupted. This module reads the environment, the files and the clock, and prints. No
network is attached to it, so no gateway can be probed and nothing listens.
-/

namespace Gatehouse.CommandLine

open Config (Environment)
open Files (FileError FileSystem)

def filterVariable : String := "RUST_LOG"

def readEnvironment : IO Environment := do
  let names := ["APP_ENV", Operator.settingsVariable, filterVariable] ++
    Config.knownVariables.map (·.name)
  let values ← names.mapM fun name => do return (name, ← IO.getEnv name)
  return fun name => (values.lookup name).join

/-- Why a file could not be read. A directory can be opened, and only reading it fails; a path through
a file cannot be opened, and the error names it. Whatever else goes wrong goes wrong with a file. -/
def fileError : IO.Error → FileError
  | .inappropriateType none _ _ => .isDirectory
  | .inappropriateType (some _) _ _ => .notDirectory
  | .noFileOrDirectory .. => .notFound
  | reason => .other true (toString reason)

def readFile (path : String) : IO (String × Except FileError Bytes) := do
  try
    return (path, .ok (← IO.FS.readBinFile path).toList)
  catch e => return (path, .error (fileError e))

/-- Read the settings file and the files that the settings name. -/
def readFiles (env : Environment) (settings : Option String) : IO FileSystem := do
  let first ← settings.toList.mapM readFile
  let named :=
    match Config.load (.ofReads first) env settings with
    | .ok s => s.paths
    | .error _ => []
  return .ofReads (first ++ (← named.mapM readFile))

/-- Say why a command line is not carried out, and give the exit code. -/
def stop : Operator.Stop → IO UInt32
  | .usage => do
    IO.eprintln "error: see --help"
    return 2
  | .help => do
    IO.println "health [--url URL] | issue --user-id ID --username NAME | verify TOKEN | start"
    IO.println "each with [--config FILE]"
    return 0

/-- Say why something failed, and give the exit code. -/
def fail (message : String) : IO UInt32 := do
  IO.eprintln ("Error: " ++ message)
  return 1

/-- Carry out a command of the operator. -/
def operate (env : Environment) (args : List String) : IO UInt32 := do
  match Operator.Invocation.read env args with
  | .error reason => stop reason
  | .ok invocation =>
    let files ← readFiles env invocation.settings
    let time ← Std.Time.Timestamp.now
    let now := Int64.ofInt time.toSecondsSinceUnixEpoch.val
    match invocation.run { files, env, now, network := fun _ => .ends [] (.error .plain) } with
    | .ok text =>
      IO.print text
      return 0
    | .error reason => fail reason.message

/-- Tell what a start of the gateway would log. -/
def start (env : Environment) (args : List String) : IO UInt32 := do
  match Operator.readGatewayArguments env args with
  | .error reason => stop reason
  | .ok settings =>
    let run := Lifecycle.run (← readFiles env settings) env (env filterVariable) settings .interrupt
    for event in run.events do
      let members := [("target", .str event.target), ("message", .str event.message)] ++ event.fields
      IO.println (Json.obj members).compact
    match run.result with
    | .ok () => return 0
    | .error reason => fail reason.message

end Gatehouse.CommandLine

def main (args : List String) : IO UInt32 := do
  let env ← Gatehouse.CommandLine.readEnvironment
  match args with
  | "start" :: rest => Gatehouse.CommandLine.start env rest
  | args => Gatehouse.CommandLine.operate env args
