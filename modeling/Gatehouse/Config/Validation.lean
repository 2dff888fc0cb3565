import Gatehouse.Config.Settings
import Gatehouse.Net.SocketAddress
import Gatehouse.Url.Parser

/-!
# Checking settings

Every problem of the settings is listed, in a fixed order: addresses, services, ranges, key material.
The built-in secret is a problem in production only.
-/

namespace Gatehouse.Config

/-- The longest life of a token: ten years. -/
def maxExpiryHours : Int64 := 10 * 366 * 24

/-- Something that is wrong with the settings. -/
inductive Problem where
  | bindAddress (value : String)
  | serviceUrl (field value : String)
  | zeroProxyTimeout
  | nonPositiveExpiry
  | expiryTooLong (hours : Int64)
  | emptySecret
  | developmentSecretInProduction
  | missingPublicKey
  | zeroBodyLimit
  | metricsAddress (value : String)
deriving DecidableEq, Repr

def Problem.message : Problem → String
  | .bindAddress value =>
    "listener.bind_address " ++ Text.quoted value ++ " is not a socket address"
  | .serviceUrl field value =>
    field ++ " " ++ Text.quoted value ++ " is not an absolute http:// URL with a host"
  | .zeroProxyTimeout => "timeouts.proxy_secs must be greater than zero"
  | .nonPositiveExpiry => "jwt.expiry_hours must be greater than zero"
  | .expiryTooLong hours =>
    "jwt.expiry_hours must be at most " ++ String.ofList (Number.signed maxExpiryHours.toInt) ++
      ", got " ++ String.ofList (Number.signed hours.toInt)
  | .emptySecret => "jwt.secret must not be empty for HS256"
  | .developmentSecretInProduction =>
    "jwt.secret is the development default; set JWT_SECRET in production"
  | .missingPublicKey => "RS256 needs a public key (jwt.public_key or jwt.public_key_path)"
  | .zeroBodyLimit => "security.max_body_size must be greater than zero"
  | .metricsAddress value =>
    "observability.metrics_address " ++ Text.quoted value ++ " is not a socket address"

/-- Whether a text is an absolute `http` URL with a host. -/
def isHttpBase (value : String) : Bool :=
  match Url.parse value with
  | .ok url => url.scheme = "http" && url.hasHost
  | .error _ => false

def isSocketAddress (value : String) : Bool := (Net.SocketAddress.parse? value).isSome

/-- The services as they are named in messages. -/
def Services.fields (services : Services) : List (String × Option String) :=
  [("upstreams.auth_url", some services.authUrl),
    ("upstreams.task_url", some services.taskUrl),
    ("upstreams.frontend_url", services.frontendUrl)]

def Services.problems (services : Services) : List Problem :=
  services.fields.filterMap fun (field, value) =>
    match value with
    | some value => if isHttpBase value then none else some (.serviceUrl field value)
    | none => none

/-- The problem of the lifetime of tokens. -/
def expiryProblems (hours : Int64) : List Problem :=
  if hours ≤ 0 then [.nonPositiveExpiry]
  else if maxExpiryHours < hours then [.expiryTooLong hours]
  else []

/-- The problem of the key material in a profile. -/
def Jwt.keyProblems (jwt : Jwt) (profile : Profile) : List Problem :=
  match jwt.algorithm with
  | .hs256 =>
    if Text.blank jwt.secret then [.emptySecret]
    else if profile = .production ∧ jwt.secret = developmentSecret then
      [.developmentSecretInProduction]
    else []
  | .rs256 =>
    let inline := (jwt.publicKey.map fun pem => !Text.blank pem).getD false
    if !inline && jwt.publicKeyPath.isNone then [.missingPublicKey] else []

def Settings.problems (s : Settings) : List Problem :=
  (if isSocketAddress s.listener.bindAddress then [] else [.bindAddress s.listener.bindAddress]) ++
  s.services.problems ++
  (if s.timeouts.proxySecs = 0 then [.zeroProxyTimeout] else []) ++
  expiryProblems s.jwt.expiryHours ++
  s.jwt.keyProblems s.profile ++
  (if s.security.maxBodySize = 0 then [.zeroBodyLimit] else []) ++
  (if s.observability.metricsEnabled && !isSocketAddress s.observability.metricsAddress then
    [.metricsAddress s.observability.metricsAddress]
  else [])

end Gatehouse.Config
