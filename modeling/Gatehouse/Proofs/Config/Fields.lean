import Gatehouse.Config.Codec
import Gatehouse.Config.Environment
import Gatehouse.Proofs.Toml.Entries

/-!
# The fields of the settings

Settings are a profile and nineteen fields. Each field stands under a key of a table in documents, is read
there in one way, and most are set by a variable. A field is set without touching any other, and
settings with the same profile and the same fields are the same. What settings are written as is read
back field by field.
-/

namespace Gatehouse.Config

open Token (Algorithm)

/-- A field: where a document declares it, how it is read there, what it is when it is missing there and
how it is written, how it is seen and set, and the variable that sets it, with what it makes of a
text. -/
structure Field where
  Value : Type
  table : String
  key : String
  read : Json → Option Value
  missing : Value
  write : Value → Option Toml
  get : Settings → Value
  set : Value → Settings → Settings
  var? : Option (String × (String → Option Value)) := none
  get_set : ∀ value s, get (set value s) = value := by
    intro _ _
    rfl
  set_get : ∀ s, set (get s) s = s := by
    intro _
    rfl
  profile_set : ∀ value s, (set value s).profile = s.profile := by
    intro _ _
    rfl

namespace Field

/-- A field that may be missing in a document. -/
def optionalRead {α : Type} (read : Json → Option α) (value : Json) : Option (Option α) :=
  (read value).map some

/-- The names of certificate and key as a document holds them. -/
def writtenTls (tls : TlsFiles) : Toml :=
  .table [("cert_path", .str tls.certPath), ("key_path", .str tls.keyPath)]

/-- The fields, in the order of their variables. -/
def all : List Field := [
  { Value := String, table := "listener", key := "bind_address", read := Json.text?
    missing := ({} : Listener).bindAddress, get := fun s => s.listener.bindAddress
    write := fun v => some (.str v)
    set := fun v s => { s with listener.bindAddress := v }
    var? := some ("GATEWAY_BIND_ADDRESS", some) },
  { Value := Option TlsFiles, table := "listener", key := "tls", read := optionalRead readTlsFiles
    missing := none, get := fun s => s.listener.tls
    write := Option.map writtenTls
    set := fun v s => { s with listener.tls := v } },
  { Value := String, table := "upstreams", key := "auth_url", read := Json.text?
    missing := ({} : Services).authUrl, get := fun s => s.services.authUrl
    write := fun v => some (.str v)
    set := fun v s => { s with services.authUrl := v }
    var? := some ("AUTH_SERVICE_URL", some) },
  { Value := String, table := "upstreams", key := "task_url", read := Json.text?
    missing := ({} : Services).taskUrl, get := fun s => s.services.taskUrl
    write := fun v => some (.str v)
    set := fun v s => { s with services.taskUrl := v }
    var? := some ("TASK_SERVICE_URL", some) },
  { Value := Option String, table := "upstreams", key := "frontend_url", read := optionalRead Json.text?
    missing := none, get := fun s => s.services.frontendUrl
    write := Option.map .str
    set := fun v s => { s with services.frontendUrl := v }
    var? := some ("FRONTEND_SERVICE_URL", fun text => some (some text)) },
  { Value := UInt64, table := "timeouts", key := "proxy_secs", read := Json.uint64?
    missing := ({} : Timeouts).proxySecs, get := fun s => s.timeouts.proxySecs
    write := fun v => some (.int v.toNat)
    set := fun v s => { s with timeouts.proxySecs := v }
    var? := some ("PROXY_TIMEOUT", envUInt64?) },
  { Value := Algorithm, table := "jwt", key := "algorithm", read := readAlgorithm emptyInToml
    missing := ({} : Jwt).algorithm, get := fun s => s.jwt.algorithm
    write := fun v => some (.str v.name)
    set := fun v s => { s with jwt.algorithm := v }
    var? := some ("JWT_ALGORITHM", Algorithm.ofName?) },
  { Value := String, table := "jwt", key := "secret", read := Json.text?
    missing := ({} : Jwt).secret, get := fun s => s.jwt.secret
    write := fun v => some (.str v)
    set := fun v s => { s with jwt.secret := v }
    var? := some ("JWT_SECRET", some) },
  { Value := Option String, table := "jwt", key := "private_key", read := optionalRead Json.text?
    missing := none, get := fun s => s.jwt.privateKey
    write := Option.map .str
    set := fun v s => { s with jwt.privateKey := v }
    var? := some ("JWT_PRIVATE_KEY", fun text => some (some text)) },
  { Value := Option String, table := "jwt", key := "private_key_path", read := optionalRead Json.text?
    missing := none, get := fun s => s.jwt.privateKeyPath
    write := Option.map .str
    set := fun v s => { s with jwt.privateKeyPath := v }
    var? := some ("JWT_PRIVATE_KEY_PATH", fun text => some (some text)) },
  { Value := Option String, table := "jwt", key := "public_key", read := optionalRead Json.text?
    missing := none, get := fun s => s.jwt.publicKey
    write := Option.map .str
    set := fun v s => { s with jwt.publicKey := v }
    var? := some ("JWT_PUBLIC_KEY", fun text => some (some text)) },
  { Value := Option String, table := "jwt", key := "public_key_path", read := optionalRead Json.text?
    missing := none, get := fun s => s.jwt.publicKeyPath
    write := Option.map .str
    set := fun v s => { s with jwt.publicKeyPath := v }
    var? := some ("JWT_PUBLIC_KEY_PATH", fun text => some (some text)) },
  { Value := UInt64, table := "jwt", key := "leeway_secs", read := Json.uint64?
    missing := ({} : Jwt).leewaySecs, get := fun s => s.jwt.leewaySecs
    write := fun v => some (.int v.toNat)
    set := fun v s => { s with jwt.leewaySecs := v }
    var? := some ("JWT_CLOCK_SKEW_SECONDS", envUInt64?) },
  { Value := Int64, table := "jwt", key := "expiry_hours", read := Json.int64?
    missing := ({} : Jwt).expiryHours, get := fun s => s.jwt.expiryHours
    write := fun v => some (.int v.toInt)
    set := fun v s => { s with jwt.expiryHours := v }
    var? := some ("JWT_EXPIRY_HOURS", envInt64?) },
  { Value := String, table := "observability", key := "log_level", read := Json.text?
    missing := ({} : Observability).logLevel, get := fun s => s.observability.logLevel
    write := fun v => some (.str v)
    set := fun v s => { s with observability.logLevel := v }
    var? := some ("LOG_LEVEL", some) },
  { Value := LogFormat, table := "observability", key := "log_format"
    read := readLogFormat emptyInToml, missing := ({} : Observability).logFormat
    get := fun s => s.observability.logFormat
    write := fun v => some (.str v.name)
    set := fun v s => { s with observability.logFormat := v }
    var? := some ("LOG_FORMAT", envLogFormat?) },
  { Value := Bool, table := "observability", key := "metrics_enabled", read := Json.bool?
    missing := ({} : Observability).metricsEnabled, get := fun s => s.observability.metricsEnabled
    write := fun v => some (.bool v)
    set := fun v s => { s with observability.metricsEnabled := v } },
  { Value := String, table := "observability", key := "metrics_address", read := Json.text?
    missing := ({} : Observability).metricsAddress, get := fun s => s.observability.metricsAddress
    write := fun v => some (.str v)
    set := fun v s => { s with observability.metricsAddress := v } },
  { Value := UInt64, table := "security", key := "max_body_size", read := Json.uint64?
    missing := ({} : Security).maxBodySize, get := fun s => s.security.maxBodySize
    write := fun v => some (.int v.toNat)
    set := fun v s => { s with security.maxBodySize := v }
    var? := some ("MAX_BODY_SIZE", envUInt64?) }]

/-- The keys that lead to a field in a document. -/
def path (field : Field) : List String := [field.table, field.key]

/-- The variable of a field. -/
def assignment? (field : Field) : Option Variable :=
  field.var?.map fun (name, parse) => ⟨name, fun text s => (parse text).map fun v => field.set v s⟩

/-- The known variables are those of the fields, in the same order. -/
theorem knownVariables_eq : knownVariables = all.filterMap assignment? := rfl

/-- Setting a field leaves every other one as it is. -/
theorem get_set_of_ne : ∀ f ∈ all, ∀ g ∈ all, f.path ≠ g.path → ∀ value s,
    g.get (f.set value s) = g.get s := by
  simp only [all, List.forall_mem_cons, path, ne_eq, not_true_eq_false, false_implies, implies_true,
    and_true, and_self, List.not_mem_nil]

/-- Settings are their profile and their fields. -/
theorem settings_ext {s t : Settings} (hprofile : s.profile = t.profile)
    (hfields : ∀ f ∈ all, f.get s = f.get t) : s = t := by
  obtain ⟨_, ⟨_, _⟩, ⟨_, _, _⟩, ⟨_⟩, ⟨_, _, _, _, _, _, _, _⟩, ⟨_, _, _, _⟩, ⟨_⟩⟩ := s
  obtain ⟨_, ⟨_, _⟩, ⟨_, _, _⟩, ⟨_⟩, ⟨_, _, _, _, _, _, _, _⟩, ⟨_, _, _, _⟩, ⟨_⟩⟩ := t
  simp only [all, List.forall_mem_cons] at hfields
  obtain ⟨rfl, rfl, rfl, rfl, rfl, rfl, rfl, rfl, rfl, rfl, rfl, rfl, rfl, rfl, rfl, rfl, rfl, rfl, rfl,
    -⟩ := hfields
  cases hprofile
  rfl

/-! ## Fields of documents -/

/-- The value of a field in a document, none when it cannot be read. -/
def readIn (field : Field) (document : Toml) : Option field.Value :=
  match document.at? field.path with
  | some value => field.read value.toJson
  | none => some field.missing

theorem toUInt64?_toNat (n : UInt64) : Number.toUInt64? n.toNat = some n := by
  have hrange : (0 : Int) ≤ n.toNat ∧ (n.toNat : Int) < UInt64.size :=
    ⟨Int.natCast_nonneg _, Int.ofNat_lt.2 n.toNat_lt_size⟩
  rw [Number.toUInt64?, if_pos hrange, Int.toNat_natCast, UInt64.ofNat_toNat]

theorem readAlgorithm_name {isEmpty : Json → Bool} (algorithm : Algorithm) :
    readAlgorithm isEmpty (.str algorithm.name) = some algorithm := by
  cases algorithm <;> rfl

theorem readLogFormat_name {isEmpty : Json → Bool} (format : LogFormat) :
    readLogFormat isEmpty (.str format.name) = some format := by
  cases format <;> rfl

theorem lookup_optionalEntry (key : String) (text : Option String) (other : String) :
    (optionalEntry key text).lookup other = if other = key then text.map Toml.str else none := by
  cases text with
  | none => simp [optionalEntry]
  | some text => exact Toml.lookup_cons_ite other key (Toml.str text) []

/-- What settings are written as holds their fields, each in its place. -/
theorem at?_toToml (s : Settings) : ∀ f ∈ all, s.toToml.at? f.path = f.write (f.get s) := by
  have htls : s.toToml.at? ["listener", "tls"] = s.listener.tls.map writtenTls := by
    unfold Settings.toToml
    cases s.listener.tls <;> rfl
  simp only [all, List.forall_mem_cons, path]
  refine ⟨rfl, htls, ?_⟩
  simp [Settings.toToml, Toml.at?, Toml.get?, Toml.lookup_cons_ite, List.lookup_append,
    lookup_optionalEntry]

/-- A value that may be missing is read back when the value itself is. -/
theorem optionalRead_map {α : Type} {read : Json → Option α} {write : α → Toml}
    (hread : ∀ a, read (write a).toJson = some a) (value : Option α) :
    (match value.map write with
      | some written => optionalRead read written.toJson
      | none => some none) = some value := by
  cases value with
  | none => rfl
  | some a =>
      change (read (write a).toJson).map some = _
      rw [hread]
      rfl

theorem read_writtenTls (tls : TlsFiles) : readTlsFiles (writtenTls tls).toJson = some tls := rfl

/-- What a field is written as is read back. -/
theorem read_write : ∀ f ∈ all, ∀ value, (match f.write value with
    | some written => f.read written.toJson
    | none => some f.missing) = some value := by
  have htext := @optionalRead_map String Json.text? Toml.str fun _ => rfl
  simp only [all, List.forall_mem_cons]
  exact ⟨fun _ => rfl, optionalRead_map read_writtenTls, fun _ => rfl, fun _ => rfl, htext,
    toUInt64?_toNat, readAlgorithm_name, fun _ => rfl, htext, htext, htext, htext, toUInt64?_toNat,
    Number.toInt64?_toInt, fun _ => rfl, readLogFormat_name, fun _ => rfl, fun _ => rfl,
    toUInt64?_toNat, fun _ h => absurd h List.not_mem_nil⟩

/-- Settings are read back from how they are written, field by field. -/
theorem readIn_toToml (s : Settings) : ∀ f ∈ all, f.readIn s.toToml = some (f.get s) := by
  intro f hf
  rw [readIn, at?_toToml s f hf]
  exact read_write f hf (f.get s)

end Field

end Gatehouse.Config
