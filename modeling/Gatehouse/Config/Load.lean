import Gatehouse.Config.Codec
import Gatehouse.Config.Environment
import Gatehouse.Config.Validation
import Gatehouse.Files.FileSystem
import Gatehouse.Toml.Document

/-!
# Loading settings

Settings are layered: the defaults of a profile, then a file, then the environment. The profile is
named by the environment or else by the file. Only settings without a problem are accepted.
-/

namespace Gatehouse.Config

open Files (FileError FileSystem)

/-- Why settings cannot be loaded. -/
inductive LoadError where
  | file (path : String) (reason : FileError)
  /-- The file is not TOML, or something in it has the wrong type. -/
  | document
  | environment (bad : BadVariable)
  | invalid (problems : List Problem)
deriving DecidableEq, Repr

def LoadError.message : LoadError → String
  | .file path reason => "IO error reading " ++ path ++ ": " ++ reason.message
  | .document => "Parse error"
  | .environment bad => "Invalid value for " ++ bad.name ++ ": " ++ Text.quoted bad.value
  | .invalid problems => "Validation failed: " ++ ", ".intercalate (problems.map Problem.message)

/-- A document laid over the settings of a profile. What the document says of the profile does not
count here. -/
def layer? (profile : Profile) (document : Toml) : Option Settings :=
  (Settings.ofToml? (Toml.merge (Settings.forProfile profile).toToml document)).map fun s =>
    { s with profile }

/-- The text of a document laid over the settings of a profile. -/
def parseLayered? (profile : Profile) (text : String) : Option Settings :=
  (Toml.parse? text).bind (layer? profile)

/-- The profile that a document names. -/
def declaredProfile (document : Toml) : Profile :=
  match (document.get? "profile").bind Toml.text? with
  | some name => .ofName name
  | none => .development

/-- The settings of a file's text, and of no file. -/
def fromText (env : Environment) (text : Option String) : Except LoadError Settings :=
  match env "APP_ENV", text with
  | some name, none => .ok (.forProfile (.ofName name))
  | none, none => .ok (.forProfile .development)
  | some name, some text =>
    match parseLayered? (.ofName name) text with
    | some s => .ok s
    | none => .error .document
  | none, some text =>
    match Toml.parse? text with
    | none => .error .document
    | some document =>
      match layer? (declaredProfile document) document with
      | some s => .ok s
      | none => .error .document

/-- The paths of the files that settings name. -/
def Settings.paths (s : Settings) : List String :=
  s.jwt.publicKeyPath.toList ++ s.jwt.privateKeyPath.toList ++
    s.listener.tls.toList.flatMap fun tls => [tls.certPath, tls.keyPath]

/-- Settings without a problem. -/
def Settings.checked (s : Settings) : Except LoadError Settings :=
  if s.problems = [] then .ok s else .error (.invalid s.problems)

/-- Load settings from an optional file and the environment. -/
def load (files : FileSystem) (env : Environment) (path : Option String) :
    Except LoadError Settings := do
  let text ← match path with
    | none => pure none
    | some path =>
      match files.readText path with
      | .ok text => pure (some text)
      | .error reason => throw (.file path reason)
  let layered ← fromText env text
  match layered.withEnvironment env with
  | .error bad => throw (.environment bad)
  | .ok s => s.checked

end Gatehouse.Config
