import Gatehouse.Config.Environment
import Gatehouse.Operator.Arguments

/-!
# Commands of the operator

Three commands: probe a running gateway, issue a token, verify one. The settings file may be named
before or after the command, and the environment names one when the command line does not.
-/

namespace Gatehouse.Operator

open Config (Environment)

/-- What the operator asks for. -/
inductive Command where
  | health (url : String)
  | issue (userId : Int64) (username : String)
  | verify (token : String)
deriving DecidableEq, Repr

/-- A command and the settings file it works with. -/
structure Invocation where
  settings : Option String
  command : Command
deriving DecidableEq, Repr

def settingsFlag : Flag := ⟨"config", some 'c'⟩

def settingsVariable : String := "GATEWAY_CONFIG"

/-- The settings file, given at one of the levels of a command line, the later ones first, or else by
the environment. A file name is never empty, and the environment counts at every level without one. -/
def settingsFile (env : Environment) (levels : List Given) : Except Stop (Option String) :=
  let given := levels.map fun level => (level.value? settingsFlag).or (env settingsVariable)
  if given.contains (some "") then .error .usage
  else
    .ok ((levels.findSome? fun level => level.value? settingsFlag).or (env settingsVariable))

def urlFlag : Flag := ⟨"url", some 'u'⟩

def userIdFlag : Flag := ⟨"user-id", none⟩

def usernameFlag : Flag := ⟨"username", none⟩

def commandFlags : List (String × List Flag) :=
  [("health", [urlFlag]), ("issue", [userIdFlag, usernameFlag]), ("verify", [])]

/-- The command of a name with what was given for it. -/
def Command.ofGiven? (name : String) (given : Given) : Option Command :=
  match name, given.words with
  | "health", [] => some (.health ((given.value? urlFlag).getD "http://localhost:8080"))
  | "issue", [] => do
    let userId ← (← given.value? userIdFlag).toList |> Number.integer?
    let username ← given.value? usernameFlag
    pure (.issue (← Number.toInt64? userId) username)
  | "verify", [token] => some (.verify token)
  | _, _ => none

/-- Read the operator's command line. -/
def Invocation.read (env : Environment) (args : List String) : Except Stop Invocation := do
  let (outer, rest) ← Given.read [settingsFlag] true none {} args
  match rest with
  | [] => throw .usage
  | "help" :: names =>
    throw (if names.all fun name => (commandFlags.lookup name).isSome then .help else .usage)
  | name :: rest =>
    match commandFlags.lookup name with
    | none => throw .usage
    | some flags =>
      let (inner, _) ← Given.read (settingsFlag :: flags) false none {} rest
      let settings ← settingsFile env [inner, outer]
      match Command.ofGiven? name inner with
      | some command => pure ⟨settings, command⟩
      | none => throw .usage

/-- Read the gateway's own command line, which names a settings file at most. -/
def readGatewayArguments (env : Environment) (args : List String) : Except Stop (Option String) := do
  let (given, _) ← Given.read [settingsFlag] false none {} args
  if given.words = [] then settingsFile env [given] else throw .usage

end Gatehouse.Operator
