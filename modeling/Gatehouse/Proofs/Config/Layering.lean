import Gatehouse.Proofs.Config.ProductionSecret

/-!
# Layering a file over a profile

A file counts where it declares something that the settings know, and nowhere else: every other field
stays what the profile has, and keys that the settings do not know make no difference, however deep they
stand.
-/

namespace Gatehouse.Config

/-! ## Known keys -/

/-- The keys that are known in a document: a value is read as a whole, of a table only known keys. -/
inductive Schema where
  | value
  | table (known : List (String × Schema))

/-- What is known at a path of keys. -/
def Schema.at? : List String → Schema → Option Schema
  | [], schema => some schema
  | key :: path, .table known => (known.lookup key).bind (Schema.at? path)
  | _ :: _, .value => none

/-- The keys that settings know. -/
def settingsSchema : Schema := .table [
  ("profile", .value),
  ("listener", .table [
    ("bind_address", .value),
    ("tls", .table [("cert_path", .value), ("key_path", .value)])]),
  ("upstreams", .table [("auth_url", .value), ("task_url", .value), ("frontend_url", .value)]),
  ("timeouts", .table [("proxy_secs", .value)]),
  ("jwt", .table [
    ("algorithm", .value), ("secret", .value), ("private_key", .value), ("private_key_path", .value),
    ("public_key", .value), ("public_key_path", .value), ("leeway_secs", .value),
    ("expiry_hours", .value)]),
  ("observability", .table [
    ("log_level", .value), ("log_format", .value), ("metrics_enabled", .value),
    ("metrics_address", .value)]),
  ("security", .table [("max_body_size", .value)])]

/-- Two values say the same under known keys; of the others each may have any. -/
inductive SameKnown : Schema → Toml → Toml → Prop
  | same {schema : Schema} {value : Toml} : SameKnown schema value value
  | table {known : List (String × Schema)} {entries others : List (String × Toml)}
      (habsent : ∀ key schema, known.lookup key = some schema →
        (entries.lookup key = none ↔ others.lookup key = none))
      (hpresent : ∀ key schema value other, known.lookup key = some schema →
        entries.lookup key = some value → others.lookup key = some other →
        SameKnown schema value other) :
      SameKnown (.table known) (.table entries) (.table others)

/-- A value under an unknown key may be added to a table, or put in place of another one. -/
theorem SameKnown.add {known : List (String × Schema)} (key : String)
    (hunknown : known.lookup key = none) (value : Toml) (entries : List (String × Toml)) :
    SameKnown (.table known) (.table entries) (.table (Toml.setEntry key value entries)) := by
  have hlookup : ∀ other schema, known.lookup other = some schema →
      (Toml.setEntry key value entries).lookup other = entries.lookup other := by
    intro other schema hknown
    rw [Toml.lookup_setEntry, if_neg]
    rintro rfl
    rw [hunknown] at hknown
    cases hknown
  refine .table (fun other schema hknown => ?_) fun other schema old found hknown hold hfound => ?_
  · rw [hlookup other schema hknown]
  · rw [hlookup other schema hknown, hold] at hfound
    cases hfound
    exact .same

/-- And so it may inside a table that stands in another one. -/
theorem SameKnown.inside {known : List (String × Schema)} (key : String) {schema : Schema}
    (hknown : known.lookup key = some schema) {value other : Toml} (hsame : SameKnown schema value other)
    (entries : List (String × Toml)) :
    SameKnown (.table known) (.table (Toml.setEntry key value entries))
      (.table (Toml.setEntry key other entries)) := by
  refine .table (fun name under hunder => ?_) fun name under old found hunder hold hfound => ?_
  · rw [Toml.lookup_setEntry, Toml.lookup_setEntry]
    by_cases hname : name = key
    · simp [hname]
    · rw [if_neg hname, if_neg hname]
  · rw [Toml.lookup_setEntry] at hold hfound
    by_cases hname : name = key
    · subst hname
      rw [if_pos rfl] at hold hfound
      cases hold
      cases hfound
      cases hunder.symm.trans hknown
      exact hsame
    · rw [if_neg hname] at hold hfound
      cases hold.symm.trans hfound
      exact .same

/-- A value that is read as a whole is the same. -/
theorem SameKnown.eq {value other : Toml} (hsame : SameKnown .value value other) : value = other := by
  cases hsame
  rfl

theorem SameKnown.isTable {known : List (String × Schema)} {value other : Toml}
    (hsame : SameKnown (.table known) value other) (htable : value.isTable = true) :
    other.isTable = true := by
  cases hsame with
  | same => exact htable
  | table => rfl

/-- At a known path two such documents have nothing, or values that say the same. -/
theorem SameKnown.at? {path : List String} {schema inner : Schema} {document other : Toml}
    (hsame : SameKnown schema document other) (hknown : schema.at? path = some inner) :
    (document.at? path = none ∧ other.at? path = none) ∨
      ∃ a b, document.at? path = some a ∧ other.at? path = some b ∧ SameKnown inner a b := by
  induction path generalizing schema document other with
  | nil =>
      cases hknown
      exact .inr ⟨document, other, rfl, rfl, hsame⟩
  | cons key path ih =>
      cases hsame with
      | same =>
          cases hfound : document.at? (key :: path) with
          | none => exact .inl ⟨rfl, rfl⟩
          | some a => exact .inr ⟨a, a, rfl, rfl, .same⟩
      | @table known entries others habsent hpresent =>
          obtain ⟨under, hunder, hrest⟩ := Option.bind_eq_some_iff.1 hknown
          have hentries : Toml.at? (key :: path) (.table entries) =
              (entries.lookup key).bind (Toml.at? path) := rfl
          have hothers : Toml.at? (key :: path) (.table others) =
              (others.lookup key).bind (Toml.at? path) := rfl
          rw [hentries, hothers]
          cases hvalue : entries.lookup key with
          | none =>
              rw [(habsent key under hunder).1 hvalue]
              exact .inl ⟨rfl, rfl⟩
          | some value =>
              cases hother : others.lookup key with
              | none =>
                  rw [(habsent key under hunder).2 hother] at hvalue
                  cases hvalue
              | some other => exact ih (hpresent key under value other hunder hvalue hother) hrest

/-! ## Reading known keys -/

theorem at?_singleton (key : String) (entries : List (String × Toml)) :
    Toml.at? [key] (.table entries) = entries.lookup key := by
  change (entries.lookup key).bind some = entries.lookup key
  exact Option.bind_fun_some _

theorem SameKnown.lookup_eq {known : List (String × Schema)} {entries others : List (String × Toml)}
    (hsame : SameKnown (.table known) (.table entries) (.table others)) {key : String}
    (hknown : known.lookup key = some .value) : entries.lookup key = others.lookup key := by
  have hpath : (Schema.table known).at? [key] = some .value := by
    rw [Schema.at?, hknown]
    rfl
  rw [← at?_singleton, ← at?_singleton]
  rcases hsame.at? hpath with ⟨hnone, hother⟩ | ⟨a, b, ha, hb, hvalue⟩
  · rw [hnone, hother]
  · rw [ha, hb, hvalue.eq]

/-- The files of a listener are read when both names are there, as texts. -/
theorem readTlsFiles_eq_some_iff {entries : List (String × Toml)} (hkeys : Toml.DistinctKeys entries)
    {tls : TlsFiles} :
    readTlsFiles (Toml.table entries).toJson = some tls ↔
      (∃ value, entries.lookup "cert_path" = some value ∧ Json.text? value.toJson = some tls.certPath) ∧
        ∃ value, entries.lookup "key_path" = some value ∧ Json.text? value.toJson = some tls.keyPath := by
  obtain ⟨_, _⟩ := tls
  simp [readTlsFiles, given?_toJson hkeys, Given.required, Option.bind_eq_some_iff]

theorem readTlsFiles_eq_of_sameKnown {a b : Toml}
    (hsame : SameKnown (.table [("cert_path", .value), ("key_path", .value)]) a b)
    (ha : Toml.Proper a) (hb : Toml.Proper b) : readTlsFiles a.toJson = readTlsFiles b.toJson := by
  cases hsame with
  | same => rfl
  | @table _ entries others habsent hpresent =>
      have hboth := SameKnown.table habsent hpresent
      refine Option.ext fun tls => ?_
      rw [readTlsFiles_eq_some_iff ha.distinctKeys, readTlsFiles_eq_some_iff hb.distinctKeys,
        hboth.lookup_eq rfl, hboth.lookup_eq rfl]

namespace Field

/-- The key of each field is known, and what stands there is read alike where it says the same. -/
theorem read_eq_of_sameKnown : ∀ f ∈ all, ∃ schema, settingsSchema.at? f.path = some schema ∧
    ∀ {a b}, SameKnown schema a b → Toml.Proper a → Toml.Proper b →
      f.read a.toJson = f.read b.toJson := by
  have hvalue : ∀ f : Field, settingsSchema.at? f.path = some .value →
      ∃ schema, settingsSchema.at? f.path = some schema ∧
        ∀ {a b}, SameKnown schema a b → Toml.Proper a → Toml.Proper b →
          f.read a.toJson = f.read b.toJson := by
    intro f hknown
    refine ⟨.value, hknown, fun hsame _ _ => ?_⟩
    rw [hsame.eq]
  simp only [all, List.forall_mem_cons]
  refine ⟨hvalue _ rfl, ⟨_, rfl, fun hsame ha hb => ?_⟩, hvalue _ rfl, hvalue _ rfl, hvalue _ rfl,
    hvalue _ rfl, hvalue _ rfl, hvalue _ rfl, hvalue _ rfl, hvalue _ rfl, hvalue _ rfl, hvalue _ rfl,
    hvalue _ rfl, hvalue _ rfl, hvalue _ rfl, hvalue _ rfl, hvalue _ rfl, hvalue _ rfl, hvalue _ rfl,
    fun _ h => absurd h List.not_mem_nil⟩
  exact congrArg (Option.map some) (readTlsFiles_eq_of_sameKnown hsame ha hb)

/-- Documents that say the same under known keys give every field the same. -/
theorem layered_eq_of_sameKnown {document other : Toml}
    (hsame : SameKnown settingsSchema document other) (hproper : Toml.Proper document)
    (hother : Toml.Proper other) (below : Settings) :
    ∀ f ∈ all, f.layered document below = f.layered other below := by
  intro f hf
  obtain ⟨schema, hknown, hread⟩ := read_eq_of_sameKnown f hf
  rw [layered, layered]
  rcases hsame.at? hknown with ⟨hnone, hnone'⟩ | ⟨a, b, ha, hb, hinner⟩
  · rw [hnone, hnone']
  · rw [ha, hb]
    exact hread hinner (hproper.of_at? ha) (hother.of_at? hb)

end Field

/-! ## Layers -/

section Layers

variable {entries others : List (String × Toml)}

/-- The sections of a document that says the same are tables as well. -/
theorem HasTables.of_sameKnown (htables : HasTables entries)
    (hsame : SameKnown settingsSchema (.table entries) (.table others)) : HasTables others := by
  have hschema : ∀ name ∈ tableNames, ∃ known, settingsSchema.at? [name] = some (.table known) := by
    simp only [tableNames, List.forall_mem_cons]
    exact ⟨⟨_, rfl⟩, ⟨_, rfl⟩, ⟨_, rfl⟩, ⟨_, rfl⟩, ⟨_, rfl⟩, ⟨_, rfl⟩,
      fun _ h => absurd h List.not_mem_nil⟩
  intro name hname value hvalue
  obtain ⟨known, hknown⟩ := hschema name hname
  have hat := hsame.at? hknown
  rw [at?_singleton, at?_singleton, hvalue] at hat
  rcases hat with ⟨-, hnone⟩ | ⟨a, b, ha, hb, hinner⟩
  · cases hnone
  · cases hb
    exact hinner.isTable (htables name hname a ha)

theorem isSome_layer?_iff (hproper : Toml.Proper (.table entries)) (htables : HasTables entries)
    (profile : Profile) :
    (layer? profile (.table entries)).isSome = true ↔ Readable (.table entries) := by
  by_cases hreadable : Readable (.table entries)
  · obtain ⟨s, hs, -⟩ := exists_layer_of_readable hproper htables profile hreadable
    exact iff_of_true (Option.isSome_iff_exists.2 ⟨s, hs⟩) hreadable
  · rw [layer?_eq_none_of_not_readable hproper htables profile hreadable]
    exact iff_of_false nofun hreadable

/-- What a document declares is taken from it, and the rest from the profile. -/
theorem fields_of_layer? (hproper : Toml.Proper (.table entries)) (htables : HasTables entries)
    {profile : Profile} {s : Settings} (hlayer : layer? profile (.table entries) = some s) :
    ∀ f ∈ Field.all,
      (∀ value, Toml.at? f.path (.table entries) = some value →
        f.read value.toJson = some (f.get s)) ∧
      (Toml.at? f.path (.table entries) = none → f.get s = f.get (Settings.forProfile profile)) := by
  have hreadable := (isSome_layer?_iff hproper htables profile).1 (Option.isSome_iff_exists.2 ⟨s, hlayer⟩)
  obtain ⟨t, ht, -, hfields⟩ := exists_layer_of_readable hproper htables profile hreadable
  cases ht.symm.trans hlayer
  intro f hf
  have hbelow := hfields f hf
  rw [Field.below, Option.bind_some] at hbelow
  refine ⟨fun value hvalue => ?_, fun hnone => ?_⟩
  · rw [hvalue] at hbelow
    exact hbelow
  · rw [hnone] at hbelow
    exact (Option.some.inj hbelow).symm

/-- Documents that say the same under known keys are laid over a profile alike. -/
theorem layer?_eq_of_sameKnown (hproper : Toml.Proper (.table entries))
    (hother : Toml.Proper (.table others)) (htables : HasTables entries)
    (hsame : SameKnown settingsSchema (.table entries) (.table others)) (profile : Profile) :
    layer? profile (.table others) = layer? profile (.table entries) := by
  have hplain := tls_forProfile profile
  have hread : ∀ s, Settings.ofToml? (Toml.merge (Settings.forProfile profile).toToml (.table others)) =
      some s ↔ Settings.ofToml? (Toml.merge (Settings.forProfile profile).toToml (.table entries)) =
        some s := by
    intro s
    rw [ofToml?_merge_eq_some_iff hplain hother (htables.of_sameKnown hsame),
      ofToml?_merge_eq_some_iff hplain hproper htables, hsame.lookup_eq rfl]
    refine and_congr_right fun _ => forall_congr' fun f => forall_congr' fun hf => ?_
    rw [Field.layered_eq_of_sameKnown hsame hproper hother _ f hf]
  rw [layer?, layer?, Option.ext hread]

end Layers

/-! ## Texts -/

/-- A document that can be read gives the files of a listener both names. -/
theorem Readable.tls {document : Toml} (hreadable : Readable document) (hproper : Toml.Proper document)
    {tls : List (String × Toml)} (hfound : document.at? ["listener", "tls"] = some (.table tls)) :
    (∃ value, tls.lookup "cert_path" = some value) ∧ ∃ value, tls.lookup "key_path" = some value := by
  have hfields := hreadable.fields
  simp only [Field.all, List.forall_mem_cons] at hfields
  obtain ⟨-, htls, -⟩ := hfields
  have hread : ((readTlsFiles (Toml.table tls).toJson).map some).isSome = true := htls _ hfound
  rw [Option.isSome_map] at hread
  obtain ⟨files, hfiles⟩ := Option.isSome_iff_exists.1 hread
  obtain ⟨⟨cert, hcert, -⟩, key, hkey, -⟩ :=
    (readTlsFiles_eq_some_iff (hproper.of_at? hfound).distinctKeys).1 hfiles
  exact ⟨⟨cert, hcert⟩, key, hkey⟩

/-- A document whose sections are tables is laid over a profile exactly when everything can be read that it
declares under a known key; a table of files that lacks one of its two names cannot. The settings have that
profile; each field that is declared has the value of the document, and each other one the value that it has
in the profile, also inside a section of which only a part is there. A document that says the same under
known keys and anything else under others, however deep, comes to the same. -/
theorem parseLayered?_exact (profile : Profile) {text : String} {document : Toml}
    (hparsed : Toml.parse? text = some document)
    (htables : ∀ name ∈ tableNames, ∀ value, document.get? name = some value →
      value.isTable = true) :
    ((parseLayered? profile text).isSome = true ↔ Readable document) ∧
    (∀ tls, document.at? ["listener", "tls"] = some (.table tls) →
      tls.lookup "cert_path" = none ∨ tls.lookup "key_path" = none →
      parseLayered? profile text = none) ∧
    (∀ s, parseLayered? profile text = some s → s.profile = profile ∧ ∀ f ∈ Field.all,
      (∀ value, document.at? f.path = some value → f.read value.toJson = some (f.get s)) ∧
      (document.at? f.path = none → f.get s = f.get (Settings.forProfile profile))) ∧
    ∀ otherText other, Toml.parse? otherText = some other → SameKnown settingsSchema document other →
      parseLayered? profile otherText = parseLayered? profile text := by
  have hlayer : ∀ {text document}, Toml.parse? text = some document →
      parseLayered? profile text = layer? profile document := by
    intro text document hparsed
    rw [parseLayered?, hparsed]
    rfl
  obtain ⟨htable, hproper⟩ := Toml.proper_of_parse? hparsed
  cases document with
  | table entries =>
      have hreads := isSome_layer?_iff hproper htables profile
      rw [hlayer hparsed]
      refine ⟨hreads, fun tls hfound hpartial => ?_, fun s hs => ⟨?_, ?_⟩, ?_⟩
      · refine Option.not_isSome_iff_eq_none.1 fun hsome => ?_
        obtain ⟨⟨cert, hcert⟩, key, hkey⟩ := (hreads.1 hsome).tls hproper hfound
        rcases hpartial with hnone | hnone
        · cases hcert.symm.trans hnone
        · cases hkey.symm.trans hnone
      · exact profile_of_layer? hs
      · exact fields_of_layer? hproper htables hs
      · intro otherText other hother hsame
        obtain ⟨hotherTable, hotherProper⟩ := Toml.proper_of_parse? hother
        rw [hlayer hother]
        cases other with
        | table others => exact layer?_eq_of_sameKnown hproper hotherProper htables hsame profile
        | _ => cases hotherTable
  | _ => cases htable

/-- A document that switches metrics on, with a colour beside that or without one. -/
def metricsOn (colour : Option String) : Toml :=
  .table [("observability", .table (("metrics_enabled", .bool true) ::
    (colour.map fun text => ("colour", .str text)).toList))]

/-- Whether a document is that one. -/
def isMetricsOn : Option String → Toml → Bool
  | none, .table [(table, .table [(key, .bool true)])] =>
    table = "observability" && key = "metrics_enabled"
  | some colour, .table [(table, .table [(key, .bool true), (unknown, .str text)])] =>
    table = "observability" && key = "metrics_enabled" && unknown = "colour" && text = colour
  | _, _ => false

theorem parse?_of_isMetricsOn {colour : Option String} {text : String}
    (hon : (Toml.parse? text).any (isMetricsOn colour) = true) :
    Toml.parse? text = some (metricsOn colour) := by
  obtain ⟨document, hparsed, hdocument⟩ := (Option.any_eq_true _ _).1 hon
  rw [hparsed]
  unfold isMetricsOn at hdocument
  split at hdocument
  · simp only [Bool.and_eq_true, decide_eq_true_eq] at hdocument
    obtain ⟨rfl, rfl⟩ := hdocument
    rfl
  · simp only [Bool.and_eq_true, decide_eq_true_eq] at hdocument
    obtain ⟨⟨⟨rfl, rfl⟩, rfl⟩, rfl⟩ := hdocument
    rfl
  · cases hdocument

/-- A section that switches metrics on and says nothing of the log level keeps the level of the profile,
which is not the one that the section has by itself, whether there is a colour in it or not. -/
theorem parseLayered?_exact_observability :
    ({} : Observability).logLevel ≠ "debug" ∧
    ∃ s, parseLayered? .development "[observability]\nmetrics_enabled = true\n" = some s ∧
      s.profile = .development ∧ s.observability.metricsEnabled = true ∧
      s.observability.logLevel = "debug" ∧
      parseLayered? .development "[observability]\nmetrics_enabled = true\ncolour = \"red\"\n" = some s := by
  have hparsed : Toml.parse? "[observability]\nmetrics_enabled = true\n" = some (metricsOn none) :=
    parse?_of_isMetricsOn (by decide +kernel)
  have hcoloured : Toml.parse? "[observability]\nmetrics_enabled = true\ncolour = \"red\"\n" =
      some (metricsOn (some "red")) :=
    parse?_of_isMetricsOn (by decide +kernel)
  have htables : ∀ name ∈ tableNames, ∀ value, (metricsOn none).get? name = some value →
      value.isTable = true := by
    intro name _ value hvalue
    have hfound : [("observability", Toml.table [("metrics_enabled", .bool true)])].lookup name =
        some value := hvalue
    cases List.mem_singleton.1 (Toml.mem_of_lookup_eq_some hfound)
    rfl
  have hadded : SameKnown settingsSchema (metricsOn none) (metricsOn (some "red")) :=
    .inside "observability" rfl
      (.add "colour" rfl (.str "red") [("metrics_enabled", .bool true)]) []
  obtain ⟨s, hs⟩ := Option.isSome_iff_exists.1
    (show (parseLayered? .development "[observability]\nmetrics_enabled = true\n").isSome = true by
      decide +kernel)
  obtain ⟨-, -, hfields, hsame⟩ := parseLayered?_exact .development hparsed htables
  obtain ⟨hprofile, hall⟩ := hfields s hs
  simp only [Field.all, List.forall_mem_cons] at hall
  obtain ⟨-, -, -, -, -, -, -, -, -, -, -, -, -, -, hlevel, -, hmetrics, -⟩ := hall
  have hlog : s.observability.logLevel = "debug" := hlevel.2 rfl
  have hon : some true = some s.observability.metricsEnabled := hmetrics.1 (.bool true) rfl
  refine ⟨by decide, s, hs, hprofile, (Option.some.inj hon).symm, hlog, ?_⟩
  rw [hsame _ _ hcoloured hadded, hs]

end Gatehouse.Config
