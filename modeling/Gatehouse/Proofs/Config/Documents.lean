import Gatehouse.Config.Load
import Gatehouse.Proofs.Config.Fields
import Gatehouse.Proofs.Toml.DistinctKeys

/-!
# Settings in documents

A document in which every table of the settings stands, and no key twice, is read field by field: each
field is what stands in its place, or what it is when it is missing. A document over settings takes each
field from what it declares itself, and from the settings below otherwise.
-/

namespace Gatehouse.Config

/-- The tables of the settings. -/
def tableNames : List String :=
  ["listener", "upstreams", "timeouts", "jwt", "observability", "security"]

/-! ## Entries of one table -/

/-- What stands under a key, or a value for when nothing does; none when it cannot be read. -/
def readEntry {α : Type} (entries : List (String × Toml)) (key : String) (read : Json → Option α)
    (missing : α) : Option α :=
  match entries.lookup key with
  | some value => read value.toJson
  | none => some missing

theorem readEntry_of_lookup {α : Type} {entries : List (String × Toml)} {key : String} {value : Toml}
    (hfound : entries.lookup key = some value) (read : Json → Option α) (missing : α) :
    readEntry entries key read missing = read value.toJson := by
  rw [readEntry, hfound]

theorem toJsonEntries_eq_map (entries : List (String × Toml)) :
    Toml.toJsonEntries entries = entries.map fun entry => (entry.1, entry.2.toJson) := by
  induction entries with
  | nil => rw [Toml.toJsonEntries, List.map_nil]
  | cons entry entries ih => rw [Toml.toJsonEntries, ih, List.map_cons]

theorem lookup_toJsonEntries (entries : List (String × Toml)) (key : String) :
    (Toml.toJsonEntries entries).lookup key = (entries.lookup key).map Toml.toJson := by
  induction entries with
  | nil => rfl
  | cons entry entries ih =>
      obtain ⟨name, value⟩ := entry
      rw [Toml.toJsonEntries, Toml.lookup_cons_ite, Toml.lookup_cons_ite, ih]
      by_cases hkey : key = name
      · rw [if_pos hkey, if_pos hkey]
        rfl
      · rw [if_neg hkey, if_neg hkey]

/-- Among distinct keys no name is repeated. -/
theorem repeatsName_of_distinctKeys {members : List (String × Json)}
    (hkeys : Toml.DistinctKeys members) (names : List String) :
    repeatsName names members = false := by
  rw [repeatsName, List.any_eq_false]
  intro name _
  have hcount := List.nodup_iff_count_le_one.1 hkeys name
  rw [List.count_eq_countP, List.countP_map, List.countP_eq_length_filter] at hcount
  refine mt of_decide_eq_true (Nat.not_lt.2 ?_)
  convert hcount using 3
  funext member
  exact Bool.eq_iff_iff.2 (decide_eq_true_iff.trans beq_iff_eq.symm)

/-- An object without a name twice gives what stands under each name. -/
theorem given?_obj {members : List (String × Json)} (hkeys : Toml.DistinctKeys members)
    (names : List String) : given? names (.obj members) = some fun name => members.lookup name := by
  rw [given?, repeatsName_of_distinctKeys hkeys, if_neg Bool.false_ne_true]

theorem given?_toJson {entries : List (String × Toml)} (hkeys : Toml.DistinctKeys entries)
    (names : List String) :
    given? names (Toml.table entries).toJson =
      some fun name => (entries.lookup name).map Toml.toJson := by
  have hmembers : Toml.DistinctKeys (Toml.toJsonEntries entries) := by
    rw [toJsonEntries_eq_map, Toml.DistinctKeys, List.map_map]
    exact hkeys
  rw [Toml.toJson, given?_obj hmembers]
  congr 1
  funext name
  exact lookup_toJsonEntries entries name

theorem field_lookup {α : Type} (entries : List (String × Toml)) (name : String)
    (read : Json → Option α) (default : α) :
    Given.field (fun name => (entries.lookup name).map Toml.toJson) name read default =
      readEntry entries name read default := by
  unfold Given.field readEntry
  dsimp only
  cases entries.lookup name <;> rfl

theorem toJson_ne_null (value : Toml) : value.toJson ≠ .null := by
  cases value <;> simp [Toml.toJson]

theorem optional_lookup {α : Type} (entries : List (String × Toml)) (name : String)
    (read : Json → Option α) :
    Given.optional (fun name => (entries.lookup name).map Toml.toJson) name read =
      readEntry entries name (Field.optionalRead read) none := by
  unfold Given.optional readEntry
  dsimp only
  cases entries.lookup name with
  | none => rfl
  | some value =>
      have hvalue := toJson_ne_null value
      dsimp only [Option.map_some, Field.optionalRead]
      cases hjson : value.toJson with
      | null => exact absurd hjson hvalue
      | _ => rfl

section Tables

variable {entries : List (String × Toml)} (hkeys : Toml.DistinctKeys entries)

include hkeys

theorem readListener_eq_some_iff {listener : Listener} :
    readListener (Toml.table entries).toJson = some listener ↔
      readEntry entries "bind_address" Json.text? ({} : Listener).bindAddress =
          some listener.bindAddress ∧
        readEntry entries "tls" (Field.optionalRead readTlsFiles) none = some listener.tls := by
  obtain ⟨_, _⟩ := listener
  simp [readListener, given?_toJson hkeys, field_lookup, optional_lookup, Option.bind_eq_some_iff]

theorem readServices_eq_some_iff {services : Services} :
    readServices (Toml.table entries).toJson = some services ↔
      readEntry entries "auth_url" Json.text? ({} : Services).authUrl = some services.authUrl ∧
        readEntry entries "task_url" Json.text? ({} : Services).taskUrl = some services.taskUrl ∧
        readEntry entries "frontend_url" (Field.optionalRead Json.text?) none =
          some services.frontendUrl := by
  obtain ⟨_, _, _⟩ := services
  simp [readServices, given?_toJson hkeys, field_lookup, optional_lookup, Option.bind_eq_some_iff]

theorem readTimeouts_eq_some_iff {timeouts : Timeouts} :
    readTimeouts (Toml.table entries).toJson = some timeouts ↔
      readEntry entries "proxy_secs" Json.uint64? ({} : Timeouts).proxySecs = some timeouts.proxySecs := by
  obtain ⟨_⟩ := timeouts
  simp [readTimeouts, given?_toJson hkeys, field_lookup, Option.bind_eq_some_iff]

theorem readJwt_eq_some_iff {jwt : Jwt} :
    readJwt emptyInToml (Toml.table entries).toJson = some jwt ↔
      readEntry entries "algorithm" (readAlgorithm emptyInToml) ({} : Jwt).algorithm =
          some jwt.algorithm ∧
        readEntry entries "secret" Json.text? ({} : Jwt).secret = some jwt.secret ∧
        readEntry entries "private_key" (Field.optionalRead Json.text?) none = some jwt.privateKey ∧
        readEntry entries "private_key_path" (Field.optionalRead Json.text?) none =
          some jwt.privateKeyPath ∧
        readEntry entries "public_key" (Field.optionalRead Json.text?) none = some jwt.publicKey ∧
        readEntry entries "public_key_path" (Field.optionalRead Json.text?) none =
          some jwt.publicKeyPath ∧
        readEntry entries "leeway_secs" Json.uint64? ({} : Jwt).leewaySecs = some jwt.leewaySecs ∧
        readEntry entries "expiry_hours" Json.int64? ({} : Jwt).expiryHours = some jwt.expiryHours := by
  obtain ⟨_, _, _, _, _, _, _, _⟩ := jwt
  simp [readJwt, given?_toJson hkeys, field_lookup, optional_lookup, Option.bind_eq_some_iff]

theorem readObservability_eq_some_iff {observability : Observability} :
    readObservability emptyInToml (Toml.table entries).toJson = some observability ↔
      readEntry entries "log_level" Json.text? ({} : Observability).logLevel =
          some observability.logLevel ∧
        readEntry entries "log_format" (readLogFormat emptyInToml) ({} : Observability).logFormat =
          some observability.logFormat ∧
        readEntry entries "metrics_enabled" Json.bool? ({} : Observability).metricsEnabled =
          some observability.metricsEnabled ∧
        readEntry entries "metrics_address" Json.text? ({} : Observability).metricsAddress =
          some observability.metricsAddress := by
  obtain ⟨_, _, _, _⟩ := observability
  simp [readObservability, given?_toJson hkeys, field_lookup, Option.bind_eq_some_iff,
    -Bool.exists_bool]

theorem readSecurity_eq_some_iff {security : Security} :
    readSecurity (Toml.table entries).toJson = some security ↔
      readEntry entries "max_body_size" Json.uint64? ({} : Security).maxBodySize =
        some security.maxBodySize := by
  obtain ⟨_⟩ := security
  simp [readSecurity, given?_toJson hkeys, field_lookup, Option.bind_eq_some_iff]

end Tables

/-! ## Whole documents -/

/-- A document holds every table of the settings, and no key twice in itself or one of them. -/
structure IsWhole (entries : List (String × Toml)) : Prop where
  keys : Toml.DistinctKeys entries
  tables : ∀ name ∈ tableNames, ∃ inner, entries.lookup name = some (.table inner) ∧
    Toml.DistinctKeys inner

/-- A field is read in its table, if that stands in the document. -/
theorem Field.readIn_table (field : Field) (entries : List (String × Toml)) :
    field.readIn (.table entries) =
      match entries.lookup field.table with
      | some (.table inner) => readEntry inner field.key field.read field.missing
      | _ => some field.missing := by
  unfold Field.readIn Field.path
  simp only [Toml.at?, Toml.get?]
  cases entries.lookup field.table with
  | none => rfl
  | some value =>
      cases value with
      | table inner =>
          unfold readEntry
          simp only [Option.bind_some]
          cases inner.lookup field.key <;> rfl
      | _ => rfl

/-- Settings are read from a whole document when its profile and each field are. -/
theorem ofToml?_eq_some_iff {entries : List (String × Toml)} (hwhole : IsWhole entries)
    {s : Settings} :
    Settings.ofToml? (.table entries) = some s ↔
      readEntry entries "profile" (readProfile emptyInToml) .development = some s.profile ∧
        ∀ f ∈ Field.all, f.readIn (.table entries) = some (f.get s) := by
  obtain ⟨listener, hlistener, hlistenerKeys⟩ := hwhole.tables "listener" (by decide)
  obtain ⟨services, hservices, hservicesKeys⟩ := hwhole.tables "upstreams" (by decide)
  obtain ⟨timeouts, htimeouts, htimeoutsKeys⟩ := hwhole.tables "timeouts" (by decide)
  obtain ⟨jwt, hjwt, hjwtKeys⟩ := hwhole.tables "jwt" (by decide)
  obtain ⟨observability, hobservability, hobservabilityKeys⟩ :=
    hwhole.tables "observability" (by decide)
  obtain ⟨security, hsecurity, hsecurityKeys⟩ := hwhole.tables "security" (by decide)
  have hread : Settings.ofToml? (.table entries) = some s ↔
      readEntry entries "profile" (readProfile emptyInToml) .development = some s.profile ∧
        readListener (Toml.table listener).toJson = some s.listener ∧
        readServices (Toml.table services).toJson = some s.services ∧
        readTimeouts (Toml.table timeouts).toJson = some s.timeouts ∧
        readJwt emptyInToml (Toml.table jwt).toJson = some s.jwt ∧
        readObservability emptyInToml (Toml.table observability).toJson = some s.observability ∧
        readSecurity (Toml.table security).toJson = some s.security := by
    obtain ⟨_, _, _, _, _, _, _⟩ := s
    simp [Settings.ofToml?, Settings.read, given?_toJson hwhole.keys, field_lookup,
      Option.bind_eq_some_iff, readEntry_of_lookup hlistener, readEntry_of_lookup hservices,
      readEntry_of_lookup htimeouts, readEntry_of_lookup hjwt, readEntry_of_lookup hobservability,
      readEntry_of_lookup hsecurity]
  rw [hread, readListener_eq_some_iff hlistenerKeys, readServices_eq_some_iff hservicesKeys,
    readTimeouts_eq_some_iff htimeoutsKeys, readJwt_eq_some_iff hjwtKeys,
    readObservability_eq_some_iff hobservabilityKeys, readSecurity_eq_some_iff hsecurityKeys]
  simp only [Field.all, List.forall_mem_cons, Field.readIn_table, hlistener, hservices, htimeouts,
    hjwt, hobservability, hsecurity, and_assoc, List.not_mem_nil, false_implies, implies_true, and_true]

/-! ## Layers -/

theorem keys_optionalEntry (key : String) (text : Option String) :
    ((optionalEntry key text).map Prod.fst).Sublist [key] := by
  cases text with
  | none => exact List.nil_sublist _
  | some text => exact List.Sublist.refl _

theorem proper_optionalEntry (key : String) (text : Option String) :
    ∀ entry ∈ optionalEntry key text, Toml.Proper entry.2 := by
  cases text with
  | none => exact fun _ h => absurd h List.not_mem_nil
  | some text => exact List.forall_mem_singleton.2 (.str text)

/-- No key is written twice. -/
theorem proper_toToml (s : Settings) : Toml.Proper s.toToml := by
  refine .table ?_ ?_
  · change ["profile", "listener", "upstreams", "timeouts", "jwt", "observability", "security"].Nodup
    decide
  · simp only [List.forall_mem_cons]
    refine ⟨.str _, ?_, .table ?_ ?_, .table (List.nodup_singleton _) ?_, .table ?_ ?_, .table ?_ ?_,
      .table (List.nodup_singleton _) ?_, fun _ h => absurd h List.not_mem_nil⟩
    · cases s.listener.tls with
      | none => exact .table (List.nodup_singleton _) (List.forall_mem_singleton.2 (.str _))
      | some tls =>
          have hfiles : Toml.Proper (Field.writtenTls tls) := by
            refine .table ?_ (List.forall_mem_cons.2 ⟨.str _, List.forall_mem_singleton.2 (.str _)⟩)
            change ["cert_path", "key_path"].Nodup
            decide
          refine .table ?_ (List.forall_mem_cons.2 ⟨.str _, List.forall_mem_singleton.2 hfiles⟩)
          change ["bind_address", "tls"].Nodup
          decide
    · have hkeys : (["auth_url", "task_url"] ++ ["frontend_url"]).Nodup := by decide
      refine List.Nodup.sublist ?_ hkeys
      rw [List.map_append]
      exact (List.Sublist.refl _).append (keys_optionalEntry _ _)
    · simp only [List.forall_mem_append, List.forall_mem_cons]
      exact ⟨⟨.str _, .str _, nofun⟩, proper_optionalEntry _ _⟩
    · exact List.forall_mem_singleton.2 (.int _)
    · have hkeys : (["algorithm", "secret"] ++ ["private_key"] ++ ["private_key_path"] ++
          ["public_key"] ++ ["public_key_path"] ++ ["leeway_secs", "expiry_hours"]).Nodup := by decide
      refine List.Nodup.sublist ?_ hkeys
      simp only [List.map_append]
      exact (((((List.Sublist.refl _).append (keys_optionalEntry _ _)).append
        (keys_optionalEntry _ _)).append (keys_optionalEntry _ _)).append
        (keys_optionalEntry _ _)).append (List.Sublist.refl _)
    · simp only [List.forall_mem_append, List.forall_mem_cons]
      exact ⟨⟨⟨⟨⟨⟨.str _, .str _, nofun⟩, proper_optionalEntry _ _⟩, proper_optionalEntry _ _⟩,
        proper_optionalEntry _ _⟩, proper_optionalEntry _ _⟩, .int _, .int _, nofun⟩
    · change ["log_level", "log_format", "metrics_enabled", "metrics_address"].Nodup
      decide
    · simp only [List.forall_mem_cons]
      exact ⟨.str _, .str _, .bool _, .str _, nofun⟩
    · exact List.forall_mem_singleton.2 (.int _)

/-- Settings are written as a whole document. -/
theorem isWhole_toToml (s : Settings) : ∃ entries, s.toToml = .table entries ∧ IsWhole entries ∧
    entries.lookup "profile" = some (.str s.profile.name) := by
  obtain ⟨entries, hentries, htables, hprofile⟩ : ∃ entries, s.toToml = .table entries ∧
      (∀ name ∈ tableNames, ∃ inner, entries.lookup name = some (.table inner)) ∧
        entries.lookup "profile" = some (.str s.profile.name) := by
    refine ⟨_, rfl, ?_, rfl⟩
    simp only [tableNames, List.forall_mem_cons]
    exact ⟨⟨_, rfl⟩, ⟨_, rfl⟩, ⟨_, rfl⟩, ⟨_, rfl⟩, ⟨_, rfl⟩, ⟨_, rfl⟩,
      fun _ h => absurd h List.not_mem_nil⟩
  have hproper := proper_toToml s
  rw [hentries] at hproper
  cases hproper with
  | table hkeys hvalues =>
      refine ⟨entries, hentries, ⟨hkeys, fun name hname => ?_⟩, hprofile⟩
      obtain ⟨inner, hinner⟩ := htables name hname
      exact ⟨inner, hinner, (hvalues _ (Toml.mem_of_lookup_eq_some hinner)).distinctKeys⟩

/-- Every known table of a document is one. -/
def HasTables (entries : List (String × Toml)) : Prop :=
  ∀ name ∈ tableNames, ∀ value, entries.lookup name = some value → value.isTable = true

/-- What stands under a name of a table in a document with proper tables: nothing, or a table without a
key twice. -/
theorem HasTables.lookup {entries : List (String × Toml)} (htables : HasTables entries)
    (hproper : Toml.Proper (.table entries)) {name : String} (hname : name ∈ tableNames) :
    entries.lookup name = none ∨
      ∃ inner, entries.lookup name = some (.table inner) ∧ Toml.DistinctKeys inner := by
  cases hfound : entries.lookup name with
  | none => exact .inl rfl
  | some value =>
      have htable := htables name hname value hfound
      cases hproper with
      | table hkeys hentries =>
          have hvalue := hentries _ (Toml.mem_of_lookup_eq_some hfound)
          cases value with
          | table inner => exact .inr ⟨inner, rfl, hvalue.distinctKeys⟩
          | _ => cases htable

/-- A document over a whole one makes a whole one. -/
theorem IsWhole.mergeEntries {base overlay : List (String × Toml)} (hbase : IsWhole base)
    (hproper : Toml.Proper (.table overlay)) (htables : HasTables overlay) :
    IsWhole (Toml.mergeEntries base overlay) := by
  have hoverlay := hproper.distinctKeys
  refine ⟨hbase.keys.mergeEntries overlay, fun name hname => ?_⟩
  obtain ⟨inner, hinner, hinnerKeys⟩ := hbase.tables name hname
  rw [Toml.lookup_mergeEntries hoverlay, hinner]
  rcases htables.lookup hproper hname with hnone | ⟨upper, hupper, -⟩
  · rw [hnone]
    exact ⟨inner, rfl, hinnerKeys⟩
  · rw [hupper]
    exact ⟨Toml.mergeEntries inner upper, congrArg some (Toml.merge_table_table inner upper),
      hinnerKeys.mergeEntries upper⟩

theorem at?_pair (table key : String) (entries : List (String × Toml)) :
    Toml.at? [table, key] (.table entries) = (entries.lookup table).bind (Toml.get? key) := by
  simp only [Toml.at?, Toml.get?]
  cases entries.lookup table with
  | none => rfl
  | some value =>
      change (value.get? key).bind some = value.get? key
      cases value.get? key <;> rfl

/-- In the place of a field stands what the document on top has there, or else what was below, as long
as that is no table. -/
theorem at?_mergeEntries {base overlay : List (String × Toml)} (hbase : IsWhole base)
    (hproper : Toml.Proper (.table overlay)) (htables : HasTables overlay) {table key : String}
    (htable : table ∈ tableNames)
    (hplain : ∀ value, Toml.at? [table, key] (.table base) = some value → value.isTable = false) :
    Toml.at? [table, key] (.table (Toml.mergeEntries base overlay)) =
      (Toml.at? [table, key] (.table overlay)).or (Toml.at? [table, key] (.table base)) := by
  have hoverlay := hproper.distinctKeys
  obtain ⟨inner, hinner, -⟩ := hbase.tables table htable
  rw [at?_pair, hinner] at hplain
  rw [at?_pair, at?_pair, at?_pair, Toml.lookup_mergeEntries hoverlay, hinner]
  rcases htables.lookup hproper htable with hnone | ⟨upper, hupper, hupperKeys⟩
  · rw [hnone]
    rfl
  · have hmerged := Toml.lookup_mergeEntries hupperKeys inner key
    rw [hupper]
    change Toml.get? key (Toml.merge (.table inner) (.table upper)) =
      (upper.lookup key).or (inner.lookup key)
    rw [Toml.merge_table_table]
    change (Toml.mergeEntries inner upper).lookup key = _
    rw [hmerged]
    cases upper.lookup key with
    | none => rfl
    | some value =>
        cases hold : inner.lookup key with
        | none => rfl
        | some old => exact congrArg some (Toml.merge_of_not_isTable (hplain old hold) value)

namespace Field

theorem table_mem_tableNames : ∀ f ∈ all, f.table ∈ tableNames := by
  simp [all, tableNames]

/-- Only the files of the listener are written as a table. -/
theorem isTable_write {s : Settings} (hplain : s.listener.tls = none) :
    ∀ f ∈ all, ∀ value, f.write (f.get s) = some value → value.isTable = false := by
  simp [all, hplain, Toml.isTable]

/-- The profile is no field. -/
theorem get_withProfile (s : Settings) (profile : Profile) :
    ∀ f ∈ all, f.get { s with profile } = f.get s := by
  simp [all]

/-- The value of a field from a document, if that declares it, or else from settings below; none when
what is declared cannot be read. -/
def layered (field : Field) (document : Toml) (below : Settings) : Option field.Value :=
  match document.at? field.path with
  | some value => field.read value.toJson
  | none => some (field.get below)

end Field

theorem readProfile_name {isEmpty : Json → Bool} (profile : Profile) :
    readProfile isEmpty (.str profile.name) = some profile := by
  cases profile <;> rfl

/-- A document over settings with no files of a listener is read field by field. -/
theorem ofToml?_merge_eq_some_iff {base : Settings} (hplain : base.listener.tls = none)
    {overlay : List (String × Toml)} (hproper : Toml.Proper (.table overlay))
    (htables : HasTables overlay) {s : Settings} :
    Settings.ofToml? (Toml.merge base.toToml (.table overlay)) = some s ↔
      (match overlay.lookup "profile" with
        | some value => readProfile emptyInToml value.toJson
        | none => some base.profile) = some s.profile ∧
        ∀ f ∈ Field.all, f.layered (.table overlay) base = some (f.get s) := by
  obtain ⟨entries, hentries, hwhole, hprofile⟩ := isWhole_toToml base
  have hoverlay := hproper.distinctKeys
  have hread : readEntry (Toml.mergeEntries entries overlay) "profile" (readProfile emptyInToml)
      .development = match overlay.lookup "profile" with
        | some value => readProfile emptyInToml value.toJson
        | none => some base.profile := by
    have hmerged := Toml.lookup_mergeEntries hoverlay entries "profile"
    rw [hprofile] at hmerged
    rw [readEntry, hmerged]
    cases overlay.lookup "profile" with
    | none => exact readProfile_name base.profile
    | some value =>
        change readProfile emptyInToml (Toml.merge (.str base.profile.name) value).toJson = _
        rw [Toml.merge_of_not_isTable rfl]
  have hfield : ∀ f ∈ Field.all, f.readIn (.table (Toml.mergeEntries entries overlay)) =
      f.layered (.table overlay) base := by
    intro f hf
    have hbelow := Field.readIn_toToml base f hf
    have hvalues : ∀ value, Toml.at? [f.table, f.key] (.table entries) = some value →
        value.isTable = false := by
      intro value hvalue
      rw [← hentries] at hvalue
      exact Field.isTable_write hplain f hf value ((Field.at?_toToml base f hf).symm.trans hvalue)
    have hat := at?_mergeEntries hwhole hproper htables (Field.table_mem_tableNames f hf) hvalues
    rw [hentries] at hbelow
    rw [Field.readIn, Field.layered, Field.path, hat, ← Field.path]
    cases (Toml.table overlay).at? f.path with
    | none => exact hbelow
    | some value => rfl
  rw [hentries, Toml.merge_table_table, ofToml?_eq_some_iff (hwhole.mergeEntries hproper htables),
    hread]
  refine and_congr_right fun _ => forall_congr' fun f => forall_congr' fun hf => ?_
  rw [hfield f hf]

end Gatehouse.Config
