import Gatehouse.Proofs.Config.Documents
import Gatehouse.Proofs.Config.Precedence
import Gatehouse.Proofs.Json.RoundTrip

/-!
# Settings are read back

Settings are written with all that they say, and read back as they were. As a document they can be laid
over other settings: what is written counts, and where a value is missing, so that nothing is written, what
is below shows through. The settings of a profile miss every value that can be missing, so that nothing
shows through over them. As JSON a missing value is written as null.
-/

namespace Gatehouse.Config

/-! ## As a document over other settings -/

theorem IsWhole.hasTables {entries : List (String × Toml)} (hwhole : IsWhole entries) :
    HasTables entries := by
  intro name hname value hvalue
  obtain ⟨inner, hinner, -⟩ := hwhole.tables name hname
  cases hvalue.symm.trans hinner
  rfl

namespace Field

/-- A value that is not written is the one that counts as missing. -/
theorem eq_missing_of_write_eq_none {f : Field} (hf : f ∈ all) {value : f.Value}
    (hunwritten : f.write value = none) : value = f.missing := by
  have hread := read_write f hf value
  rw [hunwritten] at hread
  exact (Option.some.inj hread).symm

/-- What may be missing is missing in the settings of a profile. -/
theorem get_forProfile_of_write_eq_none (profile : Profile) : ∀ f ∈ all, ∀ value,
    f.write value = none → f.get (Settings.forProfile profile) = f.missing := by
  simp only [all, List.forall_mem_cons, reduceCtorEq, false_implies, implies_true, true_and]
  cases profile <;> simp [Settings.forProfile]

end Field

/-- Settings laid over others are read back when each value that they do not write is the same below. -/
theorem ofToml?_merge_toToml_iff {base s : Settings} (hplain : base.listener.tls = none) :
    Settings.ofToml? (Toml.merge base.toToml s.toToml) = some s ↔
      ∀ f ∈ Field.all, f.write (f.get s) = none → f.get base = f.get s := by
  obtain ⟨entries, hentries, hwhole, hprofile⟩ := isWhole_toToml s
  have hproper := proper_toToml s
  have hat := Field.at?_toToml s
  rw [hentries] at hproper hat ⊢
  rw [ofToml?_merge_eq_some_iff hplain hproper hwhole.hasTables, hprofile]
  refine (and_iff_right (readProfile_name s.profile)).trans ?_
  refine forall_congr' fun f => forall_congr' fun hf => ?_
  have hread := Field.read_write f hf (f.get s)
  rw [Field.layered, hat f hf]
  cases hwritten : f.write (f.get s) with
  | none => exact ⟨fun hbelow _ => Option.some.inj hbelow, fun hsame => congrArg some (hsame rfl)⟩
  | some written =>
      rw [hwritten] at hread
      exact iff_of_true hread (fun hnone => by cases hnone)

/-- Settings are read back over the settings of any profile. -/
theorem layer?_toToml (s : Settings) (profile : Profile) :
    layer? profile s.toToml = some { s with profile } := by
  have hover : Settings.ofToml? (Toml.merge (Settings.forProfile profile).toToml s.toToml) = some s := by
    refine (ofToml?_merge_toToml_iff (tls_forProfile profile)).2 fun f hf hunwritten => ?_
    rw [Field.get_forProfile_of_write_eq_none profile f hf _ hunwritten,
      Field.eq_missing_of_write_eq_none hf hunwritten]
  rw [layer?, hover]
  rfl

/-! ## As JSON -/

/-- What is read where a value may be null. -/
def readOptional {α : Type} (read : Json → Option α) : Json → Option (Option α)
  | .null => some none
  | value => (read value).map some

theorem readOptional_optionalText (text : Option String) :
    readOptional Json.text? (optionalText text) = some text := by
  cases text <;> rfl

namespace Given

variable {α β : Type} {given : Given} {name : String} {value : Json} {read : Json → Option α}
  {result : Option β}

/-- An object that is written with the names of a record gives what stands under each. -/
theorem bind_given? {names : List String} {members : List (String × Json)}
    {more : Given → Option β} (hnames : members.map Prod.fst = names) (hdistinct : names.Nodup)
    (hmore : more (fun name => members.lookup name) = result) :
    given? names (.obj members) >>= more = result := by
  subst hnames
  rw [given?_obj hdistinct]
  exact hmore

/-- A field that is given is read, and then the fields after it. -/
theorem bind_field {a default : α} {more : α → Option β} (hgiven : given name = some value)
    (hread : read value = some a) (hmore : more a = result) :
    given.field name read default >>= more = result := by
  have hfield : given.field name read default = some a := by
    rw [field, hgiven]
    exact hread
  rw [hfield]
  exact hmore

/-- A field that may be missing is given all the same, as null, and then the fields after it are read. -/
theorem bind_optional {a : Option α} {more : Option α → Option β} (hgiven : given name = some value)
    (hread : readOptional read value = some a) (hmore : more a = result) :
    given.optional name read >>= more = result := by
  have hfield : given.optional name read = some a := by
    rw [optional, hgiven]
    cases value <;> exact hread
  rw [hfield]
  exact hmore

end Given

theorem uint64?_toNat (n : UInt64) : Json.uint64? (.int n.toNat) = some n := Field.toUInt64?_toNat n

theorem int64?_toInt (n : Int64) : Json.int64? (.int n.toInt) = some n := Number.toInt64?_toInt n

theorem readListener_written (listener : Listener) :
    readListener (.obj [
      ("bind_address", .str listener.bindAddress),
      ("tls", match listener.tls with
        | some tls => .obj [("cert_path", .str tls.certPath), ("key_path", .str tls.keyPath)]
        | none => .null)]) = some listener := by
  obtain ⟨address, tls⟩ := listener
  have htls : readOptional readTlsFiles (match tls with
      | some tls => .obj [("cert_path", .str tls.certPath), ("key_path", .str tls.keyPath)]
      | none => .null) = some tls := by
    cases tls <;> rfl
  rw [readListener]
  refine Given.bind_given? rfl (by decide) ?_
  refine Given.bind_field rfl rfl ?_
  exact Given.bind_optional rfl htls rfl

theorem readServices_written (services : Services) :
    readServices (.obj [
      ("auth_url", .str services.authUrl),
      ("task_url", .str services.taskUrl),
      ("frontend_url", optionalText services.frontendUrl)]) = some services := by
  rw [readServices]
  refine Given.bind_given? rfl (by decide) ?_
  refine Given.bind_field rfl rfl ?_
  refine Given.bind_field rfl rfl ?_
  exact Given.bind_optional rfl (readOptional_optionalText _) rfl

theorem readTimeouts_written (timeouts : Timeouts) :
    readTimeouts (.obj [("proxy_secs", .int timeouts.proxySecs.toNat)]) = some timeouts := by
  rw [readTimeouts]
  refine Given.bind_given? rfl (by decide) ?_
  exact Given.bind_field rfl (uint64?_toNat _) rfl

theorem readSecurity_written (security : Security) :
    readSecurity (.obj [("max_body_size", .int security.maxBodySize.toNat)]) = some security := by
  rw [readSecurity]
  refine Given.bind_given? rfl (by decide) ?_
  exact Given.bind_field rfl (uint64?_toNat _) rfl

section

variable (isEmpty : Json → Bool)

theorem readJwt_written (jwt : Jwt) :
    readJwt isEmpty (.obj [
      ("algorithm", .str jwt.algorithm.name),
      ("secret", .str jwt.secret),
      ("private_key", optionalText jwt.privateKey),
      ("private_key_path", optionalText jwt.privateKeyPath),
      ("public_key", optionalText jwt.publicKey),
      ("public_key_path", optionalText jwt.publicKeyPath),
      ("leeway_secs", .int jwt.leewaySecs.toNat),
      ("expiry_hours", .int jwt.expiryHours.toInt)]) = some jwt := by
  rw [readJwt]
  refine Given.bind_given? rfl (by decide) ?_
  refine Given.bind_field rfl (Field.readAlgorithm_name _) ?_
  refine Given.bind_field rfl rfl ?_
  refine Given.bind_optional rfl (readOptional_optionalText _) ?_
  refine Given.bind_optional rfl (readOptional_optionalText _) ?_
  refine Given.bind_optional rfl (readOptional_optionalText _) ?_
  refine Given.bind_optional rfl (readOptional_optionalText _) ?_
  refine Given.bind_field rfl (uint64?_toNat _) ?_
  exact Given.bind_field rfl (int64?_toInt _) rfl

theorem readObservability_written (observability : Observability) :
    readObservability isEmpty (.obj [
      ("log_level", .str observability.logLevel),
      ("log_format", .str observability.logFormat.name),
      ("metrics_enabled", .bool observability.metricsEnabled),
      ("metrics_address", .str observability.metricsAddress)]) = some observability := by
  rw [readObservability]
  refine Given.bind_given? rfl (by decide) ?_
  refine Given.bind_field rfl rfl ?_
  refine Given.bind_field rfl (Field.readLogFormat_name _) ?_
  refine Given.bind_field rfl rfl ?_
  exact Given.bind_field rfl rfl rfl

/-- Settings are read as they were written, whatever counts as an empty variant. -/
theorem read_toJson (s : Settings) : Settings.read isEmpty s.toJson = some s := by
  rw [Settings.read]
  refine Given.bind_given? rfl (by decide) ?_
  refine Given.bind_field rfl (readProfile_name _) ?_
  refine Given.bind_field rfl (readListener_written _) ?_
  refine Given.bind_field rfl (readServices_written _) ?_
  refine Given.bind_field rfl (readTimeouts_written _) ?_
  refine Given.bind_field rfl (readJwt_written isEmpty _) ?_
  refine Given.bind_field rfl (readObservability_written isEmpty _) ?_
  exact Given.bind_field rfl (readSecurity_written _) rfl

end

theorem isWhole_optionalText (text : Option String) : (optionalText text).isWhole = true := by
  cases text <;> rfl

/-- The numbers of settings are words of 64 bits. -/
theorem isWhole_toJson (s : Settings) : s.toJson.isWhole = true := by
  have htls : Json.isWhole (match s.listener.tls with
      | some tls => .obj [("cert_path", .str tls.certPath), ("key_path", .str tls.keyPath)]
      | none => .null) = true := by
    cases s.listener.tls <;> rfl
  have hoptional := isWhole_optionalText
  rw [Settings.toJson]
  simp only [Json.isWhole_obj_iff, List.forall_mem_cons]
  exact ⟨rfl, ⟨rfl, htls, nofun⟩, ⟨rfl, rfl, hoptional _, nofun⟩, ⟨Json.isWhole_uint64 _, nofun⟩,
    ⟨rfl, rfl, hoptional _, hoptional _, hoptional _, hoptional _, Json.isWhole_uint64 _,
      Json.isWhole_int64 _, nofun⟩,
    ⟨rfl, rfl, rfl, rfl, nofun⟩, ⟨Json.isWhole_uint64 _, nofun⟩, nofun⟩

/-! ## Both -/

/-- Settings are read back from either form. As a document over the settings of any profile they come back
with that profile, each value as it was, given or missing, and no value of the profile's in its place. Any
count is taken as it is here; the text of a document only has room for those below 2^63. As JSON they come
back from the value, and from its text. -/
theorem settings_read_back (s : Settings) :
    (∀ profile, layer? profile s.toToml = some { s with profile }) ∧
      Settings.ofJson? s.toJson = some s ∧
      (Json.parse? s.toJson.compact).bind Settings.ofJson? = some s := by
  have hjson : Settings.ofJson? s.toJson = some s := read_toJson emptyInJson s
  refine ⟨layer?_toToml s, hjson, ?_⟩
  rw [Json.parse?_compact (isWhole_toJson s)]
  exact hjson

end Gatehouse.Config
