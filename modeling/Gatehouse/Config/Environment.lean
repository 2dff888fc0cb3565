import Gatehouse.Config.Settings
import Gatehouse.Number.Decimal

/-!
# Settings from the environment

Each variable sets one field. A variable that is missing or blank changes nothing; one whose value
cannot be read is an error, and the first such variable in the order of `knownVariables` is reported.
-/

namespace Gatehouse.Config

open Token (Algorithm)

/-- The values of environment variables. -/
abbrev Environment := String → Option String

/-- A variable and what its value does to the settings; none when the value cannot be read. -/
structure Variable where
  name : String
  set : String → Settings → Option Settings

/-- Read an unsigned word, blanks around it aside. -/
def envUInt64? (value : String) : Option UInt64 :=
  (Number.unsigned? (Text.trim value).toList).bind fun n => Number.toUInt64? n

/-- Read a signed word, blanks around it aside. -/
def envInt64? (value : String) : Option Int64 :=
  (Number.integer? (Text.trim value).toList).bind Number.toInt64?

/-- Read a log format in any letter case, blanks around it aside. -/
def envLogFormat? (value : String) : Option LogFormat :=
  let lower := Text.lowerAscii (Text.trim value)
  [LogFormat.json, .pretty].find? fun f => f.name = lower

/-- All variables but the one that names the profile, in the order in which they are applied. -/
def knownVariables : List Variable := [
  ⟨"GATEWAY_BIND_ADDRESS", fun v s => some { s with listener.bindAddress := v }⟩,
  ⟨"AUTH_SERVICE_URL", fun v s => some { s with services.authUrl := v }⟩,
  ⟨"TASK_SERVICE_URL", fun v s => some { s with services.taskUrl := v }⟩,
  ⟨"FRONTEND_SERVICE_URL", fun v s => some { s with services.frontendUrl := some v }⟩,
  ⟨"PROXY_TIMEOUT", fun v s => (envUInt64? v).map fun n => { s with timeouts.proxySecs := n }⟩,
  ⟨"JWT_ALGORITHM", fun v s => (Algorithm.ofName? v).map fun a => { s with jwt.algorithm := a }⟩,
  ⟨"JWT_SECRET", fun v s => some { s with jwt.secret := v }⟩,
  ⟨"JWT_PRIVATE_KEY", fun v s => some { s with jwt.privateKey := some v }⟩,
  ⟨"JWT_PRIVATE_KEY_PATH", fun v s => some { s with jwt.privateKeyPath := some v }⟩,
  ⟨"JWT_PUBLIC_KEY", fun v s => some { s with jwt.publicKey := some v }⟩,
  ⟨"JWT_PUBLIC_KEY_PATH", fun v s => some { s with jwt.publicKeyPath := some v }⟩,
  ⟨"JWT_CLOCK_SKEW_SECONDS", fun v s => (envUInt64? v).map fun n => { s with jwt.leewaySecs := n }⟩,
  ⟨"JWT_EXPIRY_HOURS", fun v s => (envInt64? v).map fun n => { s with jwt.expiryHours := n }⟩,
  ⟨"LOG_LEVEL", fun v s => some { s with observability.logLevel := v }⟩,
  ⟨"LOG_FORMAT", fun v s =>
    (envLogFormat? v).map fun f => { s with observability.logFormat := f }⟩,
  ⟨"MAX_BODY_SIZE", fun v s => (envUInt64? v).map fun n => { s with security.maxBodySize := n }⟩]

/-- A variable whose value cannot be read. -/
structure BadVariable where
  name : String
  value : String
deriving DecidableEq, Repr

/-- The value of a variable, unless it is blank. -/
def setValue? (env : Environment) (name : String) : Option String :=
  (env name).filter fun value => !Text.blank value

def Variable.apply (env : Environment) (s : Settings) (v : Variable) :
    Except BadVariable Settings :=
  match setValue? env v.name with
  | none => .ok s
  | some value =>
    match v.set value s with
    | some changed => .ok changed
    | none => .error ⟨v.name, value⟩

/-- Settings with the variables of an environment applied. -/
def Settings.withEnvironment (s : Settings) (env : Environment) : Except BadVariable Settings :=
  knownVariables.foldlM (Variable.apply env) s

end Gatehouse.Config
