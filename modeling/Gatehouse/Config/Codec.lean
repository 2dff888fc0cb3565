import Gatehouse.Config.Record
import Gatehouse.Config.Settings
import Gatehouse.Toml.Value

/-!
# Settings as JSON and TOML

Settings are written with every field and read with a default for each field that is missing: the
section's own, or that of the development profile for a whole section. What an empty variant looks
like differs between the two formats, so the readers take it as an argument.
-/

namespace Gatehouse.Config

open Token (Algorithm)

/-- The empty variant of JSON. -/
def emptyInJson : Json → Bool
  | .null => true
  | _ => false

/-- The empty variants of TOML. -/
def emptyInToml : Json → Bool
  | .obj [] => true
  | .arr [] => true
  | _ => false

/-- Read a profile by its exact name. -/
def readProfile (isEmpty : Json → Bool) (value : Json) : Option Profile :=
  (variant? isEmpty value).bind fun name =>
    [Profile.development, .testing, .production].find? fun p => p.name = name

/-- Read an algorithm by its name in capitals or small letters. -/
def readAlgorithm (isEmpty : Json → Bool) (value : Json) : Option Algorithm :=
  (variant? isEmpty value).bind fun name =>
    if name = "HS256" ∨ name = "hs256" then some .hs256
    else if name = "RS256" ∨ name = "rs256" then some .rs256
    else none

/-- Read a log format by its exact name. -/
def readLogFormat (isEmpty : Json → Bool) (value : Json) : Option LogFormat :=
  (variant? isEmpty value).bind fun name =>
    [LogFormat.pretty, .json].find? fun f => f.name = name

def readTlsFiles (value : Json) : Option TlsFiles := do
  let given ← given? ["cert_path", "key_path"] value
  let certPath ← given.required "cert_path" Json.text?
  let keyPath ← given.required "key_path" Json.text?
  pure { certPath, keyPath }

def readListener (value : Json) : Option Listener := do
  let given ← given? ["bind_address", "tls"] value
  let bindAddress ← given.field "bind_address" Json.text? ({} : Listener).bindAddress
  let tls ← given.optional "tls" readTlsFiles
  pure { bindAddress, tls }

def readServices (value : Json) : Option Services := do
  let given ← given? ["auth_url", "task_url", "frontend_url"] value
  let authUrl ← given.field "auth_url" Json.text? ({} : Services).authUrl
  let taskUrl ← given.field "task_url" Json.text? ({} : Services).taskUrl
  let frontendUrl ← given.optional "frontend_url" Json.text?
  pure { authUrl, taskUrl, frontendUrl }

def readTimeouts (value : Json) : Option Timeouts := do
  let given ← given? ["proxy_secs"] value
  let proxySecs ← given.field "proxy_secs" Json.uint64? ({} : Timeouts).proxySecs
  pure { proxySecs }

def readJwt (isEmpty : Json → Bool) (value : Json) : Option Jwt := do
  let given ← given? ["algorithm", "secret", "private_key", "private_key_path", "public_key",
    "public_key_path", "leeway_secs", "expiry_hours"] value
  let algorithm ← given.field "algorithm" (readAlgorithm isEmpty) ({} : Jwt).algorithm
  let secret ← given.field "secret" Json.text? ({} : Jwt).secret
  let privateKey ← given.optional "private_key" Json.text?
  let privateKeyPath ← given.optional "private_key_path" Json.text?
  let publicKey ← given.optional "public_key" Json.text?
  let publicKeyPath ← given.optional "public_key_path" Json.text?
  let leewaySecs ← given.field "leeway_secs" Json.uint64? ({} : Jwt).leewaySecs
  let expiryHours ← given.field "expiry_hours" Json.int64? ({} : Jwt).expiryHours
  pure { algorithm, secret, privateKey, privateKeyPath, publicKey, publicKeyPath, leewaySecs,
         expiryHours }

def readObservability (isEmpty : Json → Bool) (value : Json) : Option Observability := do
  let given ← given? ["log_level", "log_format", "metrics_enabled", "metrics_address"] value
  let logLevel ← given.field "log_level" Json.text? ({} : Observability).logLevel
  let logFormat ← given.field "log_format" (readLogFormat isEmpty) ({} : Observability).logFormat
  let metricsEnabled ← given.field "metrics_enabled" Json.bool? ({} : Observability).metricsEnabled
  let metricsAddress ← given.field "metrics_address" Json.text? ({} : Observability).metricsAddress
  pure { logLevel, logFormat, metricsEnabled, metricsAddress }

def readSecurity (value : Json) : Option Security := do
  let given ← given? ["max_body_size"] value
  let maxBodySize ← given.field "max_body_size" Json.uint64? ({} : Security).maxBodySize
  pure { maxBodySize }

namespace Settings

/-- Read settings, with the development profile for what is missing. -/
def read (isEmpty : Json → Bool) (value : Json) : Option Settings := do
  let given ← given? ["profile", "listener", "upstreams", "timeouts", "jwt", "observability",
    "security"] value
  let base := forProfile .development
  let profile ← given.field "profile" (readProfile isEmpty) base.profile
  let listener ← given.field "listener" readListener base.listener
  let services ← given.field "upstreams" readServices base.services
  let timeouts ← given.field "timeouts" readTimeouts base.timeouts
  let jwt ← given.field "jwt" (readJwt isEmpty) base.jwt
  let observability ← given.field "observability" (readObservability isEmpty) base.observability
  let security ← given.field "security" readSecurity base.security
  pure { profile, listener, services, timeouts, jwt, observability, security }

def ofJson? (value : Json) : Option Settings := read emptyInJson value

def ofToml? (value : Toml) : Option Settings := read emptyInToml value.toJson

end Settings

/-- A text that may be missing, as JSON. -/
def optionalText : Option String → Json
  | some text => .str text
  | none => .null

def Settings.toJson (s : Settings) : Json :=
  .obj [
    ("profile", .str s.profile.name),
    ("listener", .obj [
      ("bind_address", .str s.listener.bindAddress),
      ("tls", match s.listener.tls with
        | some tls => .obj [("cert_path", .str tls.certPath), ("key_path", .str tls.keyPath)]
        | none => .null)]),
    ("upstreams", .obj [
      ("auth_url", .str s.services.authUrl),
      ("task_url", .str s.services.taskUrl),
      ("frontend_url", optionalText s.services.frontendUrl)]),
    ("timeouts", .obj [("proxy_secs", .int s.timeouts.proxySecs.toNat)]),
    ("jwt", .obj [
      ("algorithm", .str s.jwt.algorithm.name),
      ("secret", .str s.jwt.secret),
      ("private_key", optionalText s.jwt.privateKey),
      ("private_key_path", optionalText s.jwt.privateKeyPath),
      ("public_key", optionalText s.jwt.publicKey),
      ("public_key_path", optionalText s.jwt.publicKeyPath),
      ("leeway_secs", .int s.jwt.leewaySecs.toNat),
      ("expiry_hours", .int s.jwt.expiryHours.toInt)]),
    ("observability", .obj [
      ("log_level", .str s.observability.logLevel),
      ("log_format", .str s.observability.logFormat.name),
      ("metrics_enabled", .bool s.observability.metricsEnabled),
      ("metrics_address", .str s.observability.metricsAddress)]),
    ("security", .obj [("max_body_size", .int s.security.maxBodySize.toNat)])]

/-- The entry of a text that may be missing. -/
def optionalEntry (key : String) : Option String → List (String × Toml)
  | some text => [(key, .str text)]
  | none => []

/-- Settings as TOML. A missing value has no entry. -/
def Settings.toToml (s : Settings) : Toml :=
  .table [
    ("profile", .str s.profile.name),
    ("listener", .table (("bind_address", .str s.listener.bindAddress) ::
      match s.listener.tls with
      | some tls =>
        [("tls", .table [("cert_path", .str tls.certPath), ("key_path", .str tls.keyPath)])]
      | none => [])),
    ("upstreams", .table ([
      ("auth_url", .str s.services.authUrl),
      ("task_url", .str s.services.taskUrl)] ++
      optionalEntry "frontend_url" s.services.frontendUrl)),
    ("timeouts", .table [("proxy_secs", .int s.timeouts.proxySecs.toNat)]),
    ("jwt", .table ([
      ("algorithm", .str s.jwt.algorithm.name),
      ("secret", .str s.jwt.secret)] ++
      optionalEntry "private_key" s.jwt.privateKey ++
      optionalEntry "private_key_path" s.jwt.privateKeyPath ++
      optionalEntry "public_key" s.jwt.publicKey ++
      optionalEntry "public_key_path" s.jwt.publicKeyPath ++ [
      ("leeway_secs", .int s.jwt.leewaySecs.toNat),
      ("expiry_hours", .int s.jwt.expiryHours.toInt)])),
    ("observability", .table [
      ("log_level", .str s.observability.logLevel),
      ("log_format", .str s.observability.logFormat.name),
      ("metrics_enabled", .bool s.observability.metricsEnabled),
      ("metrics_address", .str s.observability.metricsAddress)]),
    ("security", .table [("max_body_size", .int s.security.maxBodySize.toNat)])]

end Gatehouse.Config
