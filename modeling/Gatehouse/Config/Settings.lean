import Gatehouse.Config.Profile
import Gatehouse.Number.Decimal
import Gatehouse.Token.Algorithm

/-!
# Settings

Everything the gateway can be told: where it listens, which services stand behind it, how long it
waits for them, how tokens are signed, what is logged, and how large a body may be. Each section has
defaults of its own; `forProfile` gives the defaults of a whole profile.
-/

namespace Gatehouse.Config

open Token (Algorithm)

/-- The secret that signs tokens when nothing else is set. It is known to everybody. -/
def developmentSecret : String := "gateway-dev-jwt-secret-change-in-production"

/-- The files with the certificate and key of a listener. -/
structure TlsFiles where
  certPath : String
  keyPath : String
deriving DecidableEq, Repr

/-- Where the gateway listens. -/
structure Listener where
  bindAddress : String := "0.0.0.0:8080"
  tls : Option TlsFiles := none
deriving DecidableEq, Repr, Inhabited

/-- The base URLs of the services. -/
structure Services where
  authUrl : String := "http://auth-service:5000"
  taskUrl : String := "http://task-service:5000"
  frontendUrl : Option String := none
deriving DecidableEq, Repr, Inhabited

/-- The service that takes every path no other service takes; the task service if none is named. -/
def Services.catchAllUrl (services : Services) : String :=
  services.frontendUrl.getD services.taskUrl

/-- How long the gateway waits. -/
structure Timeouts where
  proxySecs : UInt64 := 10
deriving DecidableEq, Repr, Inhabited

/-- How tokens are signed and verified. -/
structure Jwt where
  algorithm : Algorithm := .hs256
  secret : String := developmentSecret
  privateKey : Option String := none
  privateKeyPath : Option String := none
  publicKey : Option String := none
  publicKeyPath : Option String := none
  leewaySecs : UInt64 := 30
  expiryHours : Int64 := 24
deriving DecidableEq, Repr, Inhabited

/-- How log lines are written. -/
inductive LogFormat where
  | pretty
  | json
deriving DecidableEq, Repr, Inhabited

def LogFormat.name : LogFormat → String
  | .pretty => "pretty"
  | .json => "json"

/-- What is logged and measured. -/
structure Observability where
  logLevel : String := "info"
  logFormat : LogFormat := .pretty
  metricsEnabled : Bool := false
  metricsAddress : String := "0.0.0.0:9090"
deriving DecidableEq, Repr, Inhabited

/-- Limits on requests. -/
structure Security where
  maxBodySize : UInt64 := 2 * 1024 * 1024
deriving DecidableEq, Repr, Inhabited

/-- All settings of a gateway. -/
structure Settings where
  profile : Profile := .development
  listener : Listener := {}
  services : Services := {}
  timeouts : Timeouts := {}
  jwt : Jwt := {}
  observability : Observability := {}
  security : Security := {}
deriving DecidableEq, Repr, Inhabited

namespace Settings

/-- The built-in settings of a profile. The services of the testing profile cannot be reached by
accident. -/
def forProfile : Profile → Settings
  | .development => { profile := .development, observability := { logLevel := "debug" } }
  | .testing =>
    { profile := .testing
      services := { authUrl := "http://auth.test", taskUrl := "http://tasks.test" }
      timeouts := { proxySecs := 1 }
      jwt := { expiryHours := 1 } }
  | .production => { profile := .production, observability := { logFormat := .json } }

@[simp] theorem profile_forProfile (p : Profile) : (forProfile p).profile = p := by
  cases p <;> rfl

end Settings

/-- The filter directives for a log level, for the gateway's own events and those of its HTTP
layers. -/
def logDirectives (level : String) : String :=
  "todo_gateway=" ++ level ++ ",tower_http=" ++ level

/-- A value as it is shown when it may be missing. -/
def shownOption (value : Option String) : String :=
  match value with
  | some text => "Some(" ++ Text.quoted text ++ ")"
  | none => "None"

/-- The token settings as they are shown in logs: no key material is part of it. -/
def Jwt.shown (jwt : Jwt) : String :=
  "JwtConfig \x7b algorithm: " ++ jwt.algorithm.label ++
    ", secret: " ++ Text.quoted "<redacted>" ++
    ", private_key: " ++ shownOption (jwt.privateKey.map fun _ => "<redacted>") ++
    ", private_key_path: " ++ shownOption jwt.privateKeyPath ++
    ", public_key: " ++ shownOption (jwt.publicKey.map fun _ => "<inline>") ++
    ", public_key_path: " ++ shownOption jwt.publicKeyPath ++
    ", leeway_secs: " ++ String.ofList (Number.digits jwt.leewaySecs.toNat) ++
    ", expiry_hours: " ++ String.ofList (Number.signed jwt.expiryHours.toInt) ++ " \x7d"

end Gatehouse.Config
