import Gatehouse.Proofs.Config.Documents
import Gatehouse.Proofs.Config.Overrides

/-!
# What settings come from

Loading gives every field the value of its variable, or else what the file declares, or else what the
chosen profile has; it fails at the first thing that is wrong, in the order of the file, its document,
the variables and the settings as a whole. The rules are given apart from the loading, field by field, and
loading follows them exactly.
-/

namespace Gatehouse.Config

open Files (FileSystem)

/-! ## The rules -/

/-- The profile that counts: what the environment names, or else the document, or else development. -/
def chosenProfile (env : Environment) (document : Option Toml) : Profile :=
  match env "APP_ENV", document.bind (Toml.get? "profile") with
  | some name, _ => .ofName name
  | none, some (.str name) => .ofName name
  | none, _ => .development

/-- Where the value of a field comes from. -/
inductive Field.Holds (field : Field) (env : Environment) (document : Option Toml)
    (profile : Profile) : field.Value → Prop
  | variable {name text : String} {parse : String → Option field.Value} {value : field.Value} :
      field.var? = some (name, parse) → setValue? env name = some text → parse text = some value →
      Holds field env document profile value
  | document {declared : Toml} {value : field.Value} : field.override? env = none →
      document.bind (Toml.at? field.path) = some declared → field.read declared.toJson = some value →
      Holds field env document profile value
  | profile : field.override? env = none → document.bind (Toml.at? field.path) = none →
      Holds field env document profile (field.get (Settings.forProfile profile))

/-- Settings of which each field has the value that it should. -/
structure Layered (env : Environment) (document : Option Toml) (s : Settings) : Prop where
  profile : s.profile = chosenProfile env document
  fields : ∀ f ∈ Field.all, f.Holds env document s.profile (f.get s)

/-- Whatever a document declares can be read. What it says of the profile has to be the exact name of
one. -/
structure Readable (document : Toml) : Prop where
  profile : ∀ declared, document.get? "profile" = some declared →
    (readProfile emptyInToml declared.toJson).isSome = true
  fields : ∀ f ∈ Field.all, ∀ declared, document.at? f.path = some declared →
    (f.read declared.toJson).isSome = true

/-- The document at a path, none without a path, if everything in it can be read. -/
inductive Declares (files : FileSystem) : Option String → Option Toml → Prop
  | nothing : Declares files none none
  | file {path text : String} {document : Toml} : files.readText path = .ok text →
      Toml.parse? text = some document → Readable document →
      Declares files (some path) (some document)

/-- What loading comes to. -/
inductive Outcome (files : FileSystem) (env : Environment) :
    Option String → Except LoadError Settings → Prop
  | file {path : String} {reason : Files.FileError} : files.readText path = .error reason →
      Outcome files env (some path) (.error (.file path reason))
  | document {path text : String} : files.readText path = .ok text →
      (∀ document, Toml.parse? text = some document → ¬Readable document) →
      Outcome files env (some path) (.error .document)
  | environment {path : Option String} {document : Option Toml} {bad : BadVariable} :
      Declares files path document → Field.all.findSome? (Field.badVariable? env) = some bad →
      Outcome files env path (.error (.environment bad))
  | invalid {path : Option String} {document : Option Toml} {s : Settings} :
      Declares files path document → Layered env document s → s.problems ≠ [] →
      Outcome files env path (.error (.invalid s.problems))
  | loaded {path : Option String} {document : Option Toml} {s : Settings} :
      Declares files path document → Layered env document s → s.problems = [] →
      Outcome files env path (.ok s)

/-! ## Fields -/

namespace Field

/-- The value of a field before the environment. -/
def below (field : Field) (document : Option Toml) (profile : Profile) : Option field.Value :=
  match document.bind (Toml.at? field.path) with
  | some declared => field.read declared.toJson
  | none => some (field.get (Settings.forProfile profile))

theorem override?_eq_some_iff {field : Field} {env : Environment} {name text : String}
    {value : Option field.Value} :
    field.override? env = some (name, text, value) ↔
      ∃ parse, field.var? = some (name, parse) ∧ setValue? env name = some text ∧
        parse text = value := by
  unfold override?
  cases field.var? with
  | none => simp
  | some var =>
      obtain ⟨varName, parse⟩ := var
      simp only [Option.bind_some, Option.map_eq_some_iff, Option.some.injEq, Prod.mk.injEq]
      constructor
      · rintro ⟨found, hfound, rfl, rfl, hvalue⟩
        exact ⟨parse, ⟨rfl, rfl⟩, hfound, hvalue⟩
      · rintro ⟨other, ⟨rfl, rfl⟩, hfound, hvalue⟩
        exact ⟨text, hfound, rfl, rfl, hvalue⟩

/-- A field holds what the environment makes of the value below it. -/
theorem holds_iff {field : Field} {env : Environment} {document : Option Toml} {profile : Profile}
    {before value : field.Value} (hbelow : field.below document profile = some before) :
    field.Holds env document profile value ↔ overridden env field before = some value := by
  unfold below at hbelow
  constructor
  · rintro (⟨hvar, hset, hvalue⟩ | ⟨hunset, hdeclared, hread⟩ | ⟨hunset, hundeclared⟩)
    · rw [overridden, override?_eq_some_iff.2 ⟨_, hvar, hset, hvalue⟩]
    · rw [hdeclared] at hbelow
      rw [overridden, hunset, ← hread]
      exact hbelow.symm
    · rw [hundeclared] at hbelow
      rw [overridden, hunset]
      exact hbelow.symm
  · intro hvalue
    unfold overridden at hvalue
    split at hvalue
    · next name text found hoverride =>
        obtain ⟨parse, hvar, hset, hparse⟩ := override?_eq_some_iff.1 hoverride
        exact .variable hvar hset (hparse.trans hvalue)
    · next hunset =>
        cases hvalue
        split at hbelow
        · next declared hdeclared => exact .document hunset hdeclared hbelow
        · next hundeclared =>
            cases hbelow
            exact .profile hunset hundeclared

/-- A field whose variable cannot be read holds nothing. -/
theorem not_holds_of_bad {field : Field} {env : Environment} {bad : BadVariable}
    (hbad : field.badVariable? env = some bad) (document : Option Toml) (profile : Profile)
    (value : field.Value) : ¬field.Holds env document profile value := by
  unfold badVariable? at hbad
  split at hbad
  · next name text hoverride =>
      rintro (⟨hvar, hset, hvalue⟩ | ⟨hunset, -, -⟩ | ⟨hunset, -⟩)
      · rw [override?_eq_some_iff.2 ⟨_, hvar, hset, hvalue⟩] at hoverride
        cases hoverride
      · rw [hunset] at hoverride
        cases hoverride
      · rw [hunset] at hoverride
        cases hoverride
  · cases hbad

end Field

theorem not_layered_of_bad {env : Environment} {bad : BadVariable}
    (hbad : Field.all.findSome? (Field.badVariable? env) = some bad) (document : Option Toml)
    (s : Settings) : ¬Layered env document s := by
  intro hlayered
  obtain ⟨f, hf, hfound⟩ := List.exists_of_findSome?_eq_some hbad
  exact Field.not_holds_of_bad hfound document s.profile (f.get s) (hlayered.fields f hf)

/-! ## Documents -/

theorem tls_forProfile (profile : Profile) : (Settings.forProfile profile).listener.tls = none := by
  cases profile <;> rfl

section Documents

variable {overlay : List (String × Toml)} (hproper : Toml.Proper (.table overlay))
  (htables : HasTables overlay) (profile : Profile)

include hproper htables

/-- A document over a profile gives each field what stands below the environment. -/
theorem exists_layer_of_readable (hreadable : Readable (.table overlay)) :
    ∃ s, layer? profile (.table overlay) = some s ∧ s.profile = profile ∧
      ∀ f ∈ Field.all, f.below (some (.table overlay)) profile = some (f.get s) := by
  have hvalues : ∀ f ∈ Field.all, ∀ before : f.Value,
      (f.below (some (.table overlay)) profile).isSome = true := by
    intro f hf _
    unfold Field.below
    split
    · next declared hdeclared => exact hreadable.fields f hf declared hdeclared
    · rfl
  obtain ⟨t, ht⟩ := Field.exists_assigned Field.separate_all hvalues (Settings.forProfile profile)
  obtain ⟨named, hnamed⟩ : ∃ named, (match overlay.lookup "profile" with
      | some value => readProfile emptyInToml value.toJson
      | none => some (Settings.forProfile profile).profile) = some named := by
    split
    · next value hvalue => exact Option.isSome_iff_exists.1 (hreadable.profile value hvalue)
    · exact ⟨_, rfl⟩
  have hread : Settings.ofToml? (Toml.merge (Settings.forProfile profile).toToml (.table overlay)) =
      some { t with profile := named } := by
    refine (ofToml?_merge_eq_some_iff (tls_forProfile profile) hproper htables).2 ⟨hnamed, ?_⟩
    intro f hf
    rw [Field.get_withProfile t named f hf]
    exact ht.values f hf
  refine ⟨{ t with profile }, ?_, rfl, fun f hf => ?_⟩
  · rw [layer?, hread]
    rfl
  · rw [Field.get_withProfile t profile f hf]
    exact ht.values f hf

/-- A document of which something cannot be read gives no settings. -/
theorem layer?_eq_none_of_not_readable (hunreadable : ¬Readable (.table overlay)) :
    layer? profile (.table overlay) = none := by
  cases hlayer : layer? profile (.table overlay) with
  | none => rfl
  | some s =>
      obtain ⟨t, hread, -⟩ := Option.map_eq_some_iff.1 hlayer
      obtain ⟨hnamed, hfields⟩ :=
        (ofToml?_merge_eq_some_iff (tls_forProfile profile) hproper htables).1 hread
      refine absurd ⟨fun declared hdeclared => ?_, fun f hf declared hdeclared => ?_⟩ hunreadable
      · have hfound : overlay.lookup "profile" = some declared := hdeclared
        rw [hfound] at hnamed
        exact Option.isSome_iff_exists.2 ⟨_, hnamed⟩
      · have hvalue := hfields f hf
        rw [Field.layered, hdeclared] at hvalue
        exact Option.isSome_iff_exists.2 ⟨_, hvalue⟩

end Documents

/-! ## Loading -/

/-- What is left to do once file and profile are layered. -/
def finish (env : Environment) (layered : Settings) : Except LoadError Settings :=
  match layered.withEnvironment env with
  | .error bad => .error (.environment bad)
  | .ok s => s.checked

theorem load_none (files : FileSystem) (env : Environment) :
    load files env none = finish env (.forProfile (chosenProfile env none)) := by
  unfold load fromText chosenProfile
  cases env "APP_ENV" <;> rfl

theorem load_of_unreadable {files : FileSystem} {path : String} {reason : Files.FileError}
    (hread : files.readText path = .error reason) (env : Environment) :
    load files env (some path) = .error (.file path reason) := by
  rw [load]
  dsimp only
  rw [hread]
  rfl

/-- A text that is no document is reported as such. -/
theorem load_of_not_parsed {files : FileSystem} {path text : String}
    (hread : files.readText path = .ok text) (hparsed : Toml.parse? text = none) (env : Environment) :
    load files env (some path) = .error .document := by
  have hfailed : fromText env (some text) = .error .document := by
    unfold fromText parseLayered?
    cases env "APP_ENV" with
    | none =>
        dsimp only
        rw [hparsed]
    | some name =>
        dsimp only
        rw [hparsed]
        rfl
  rw [load]
  dsimp only
  rw [hread]
  change (fromText env (some text) >>= finish env) = _
  rw [hfailed]
  rfl

/-- The document of a file is laid over the profile that is chosen. -/
theorem load_of_parsed {files : FileSystem} {path text : String} {document : Toml}
    (hread : files.readText path = .ok text) (hparsed : Toml.parse? text = some document)
    (env : Environment) :
    load files env (some path) =
      match layer? (chosenProfile env (some document)) document with
      | some layered => finish env layered
      | none => .error .document := by
  have hlayered : fromText env (some text) =
      match layer? (chosenProfile env (some document)) document with
      | some layered => .ok layered
      | none => .error .document := by
    unfold fromText parseLayered? chosenProfile
    cases env "APP_ENV" with
    | some name =>
        dsimp only
        rw [hparsed]
        rfl
    | none =>
        dsimp only
        rw [hparsed]
        dsimp only [Option.bind_some, declaredProfile]
        cases document.get? "profile" with
        | none => rfl
        | some value => cases value <;> rfl
  rw [load]
  dsimp only
  rw [hread]
  change (fromText env (some text) >>= finish env) = _
  rw [hlayered]
  cases layer? (chosenProfile env (some document)) document <;> rfl

/-- The known tables of the file at a path are tables. -/
def FileHasTables (files : FileSystem) (path : Option String) : Prop :=
  ∀ file text document, path = some file → files.readText file = .ok text →
    Toml.parse? text = some document →
    ∀ name ∈ tableNames, ∀ value, document.get? name = some value → value.isTable = true

/-- Below the environment stand settings of which each field is what the document declares, or else what
the profile has; loading finishes them. -/
theorem exists_load_eq_finish {files : FileSystem} {path : Option String} {document : Option Toml}
    (hdeclares : Declares files path document) (htables : FileHasTables files path)
    (env : Environment) :
    ∃ layered, load files env path = finish env layered ∧
      layered.profile = chosenProfile env document ∧
      ∀ f ∈ Field.all, f.below document (chosenProfile env document) = some (f.get layered) := by
  cases hdeclares with
  | nothing => exact ⟨_, load_none files env, Settings.profile_forProfile _, fun f _ => rfl⟩
  | file hread hparsed hreadable =>
      next path text document =>
      obtain ⟨htable, hproper⟩ := Toml.proper_of_parse? hparsed
      have hknown := htables path text document rfl hread hparsed
      cases document with
      | table overlay =>
          obtain ⟨s, hlayer, hprofile, hfields⟩ := exists_layer_of_readable hproper hknown
            (chosenProfile env (some (.table overlay))) hreadable
          refine ⟨s, ?_, hprofile, hfields⟩
          rw [load_of_parsed hread hparsed, hlayer]
      | _ => cases htable

/-- Finishing stops at the first variable that cannot be read; without one there is one way to layer the
settings, and what is layered is checked. -/
theorem finish_cases {env : Environment} {document : Option Toml} {layered : Settings}
    (hprofile : layered.profile = chosenProfile env document)
    (hfields : ∀ f ∈ Field.all,
      f.below document (chosenProfile env document) = some (f.get layered)) :
    (∃ bad, Field.all.findSome? (Field.badVariable? env) = some bad ∧
      finish env layered = .error (.environment bad)) ∨
    Field.all.findSome? (Field.badVariable? env) = none ∧
      ∃ s, finish env layered = s.checked ∧ ∀ t, Layered env document t ↔ t = s := by
  unfold finish
  rw [Field.withEnvironment_eq]
  cases hbad : Field.all.findSome? (Field.badVariable? env) with
  | some bad =>
      refine .inl ⟨bad, rfl, ?_⟩
      rw [Field.applyAll_of_bad hbad]
  | none =>
      obtain ⟨s, happlied, hs⟩ := Field.applyAll_of_no_bad Field.separate_all hbad layered
      refine .inr ⟨rfl, s, ?_, fun t => ⟨fun ht => ?_, ?_⟩⟩
      · rw [happlied]
      · refine Field.settings_ext ?_ fun f hf => ?_
        · rw [ht.profile, hs.profile, hprofile]
        · have hvalue := ht.fields f hf
          rw [ht.profile, Field.holds_iff (hfields f hf), hs.values f hf] at hvalue
          exact (Option.some.inj hvalue).symm
      · rintro rfl
        have hsame := hs.profile.trans hprofile
        refine ⟨hsame, fun f hf => ?_⟩
        rw [hsame, Field.holds_iff (hfields f hf)]
        exact hs.values f hf

theorem checked_of_no_problem {s : Settings} (hnone : s.problems = []) : s.checked = .ok s :=
  if_pos hnone

theorem checked_of_problem {s : Settings} (hproblem : s.problems ≠ []) :
    s.checked = .error (.invalid s.problems) :=
  if_neg hproblem

/-- With a document that can be read, loading follows the rules. -/
theorem outcome_load_of_declares {files : FileSystem} {path : Option String}
    {document : Option Toml} (hdeclares : Declares files path document)
    (htables : FileHasTables files path) (env : Environment) :
    Outcome files env path (load files env path) := by
  obtain ⟨layered, hload, hprofile, hfields⟩ := exists_load_eq_finish hdeclares htables env
  rw [hload]
  rcases finish_cases hprofile hfields with ⟨bad, hbad, hfinish⟩ | ⟨-, s, hfinish, hlayered⟩
  · rw [hfinish]
    exact .environment hdeclares hbad
  · rw [hfinish]
    have hs := (hlayered s).2 rfl
    by_cases hnone : s.problems = []
    · rw [checked_of_no_problem hnone]
      exact .loaded hdeclares hs hnone
    · rw [checked_of_problem hnone]
      exact .invalid hdeclares hs hnone

/-- Layered settings are the ones that are checked. -/
theorem load_of_layered {files : FileSystem} {path : Option String} {document : Option Toml}
    (hdeclares : Declares files path document) (htables : FileHasTables files path)
    {env : Environment} {s : Settings} (hs : Layered env document s) :
    load files env path = s.checked := by
  obtain ⟨layered, hload, hprofile, hfields⟩ := exists_load_eq_finish hdeclares htables env
  rw [hload]
  rcases finish_cases hprofile hfields with ⟨bad, hbad, -⟩ | ⟨-, t, hfinish, hlayered⟩
  · exact absurd hs (not_layered_of_bad hbad document s)
  · rw [hfinish, (hlayered s).1 hs]

/-- A variable that cannot be read is reported. -/
theorem load_of_bad {files : FileSystem} {path : Option String} {document : Option Toml}
    (hdeclares : Declares files path document) (htables : FileHasTables files path)
    {env : Environment} {bad : BadVariable}
    (hbad : Field.all.findSome? (Field.badVariable? env) = some bad) :
    load files env path = .error (.environment bad) := by
  obtain ⟨layered, hload, -, -⟩ := exists_load_eq_finish hdeclares htables env
  rw [hload, finish, Field.withEnvironment_eq, Field.applyAll_of_bad hbad]

/-- A text that is no document, or one of which something cannot be read, is reported. -/
theorem load_of_not_readable {files : FileSystem} {path text : String}
    (hread : files.readText path = .ok text)
    (hunreadable : ∀ document, Toml.parse? text = some document → ¬Readable document)
    (htables : FileHasTables files (some path)) (env : Environment) :
    load files env (some path) = .error .document := by
  cases hparsed : Toml.parse? text with
  | none => exact load_of_not_parsed hread hparsed env
  | some document =>
      obtain ⟨htable, hproper⟩ := Toml.proper_of_parse? hparsed
      have hknown := htables path text document rfl hread hparsed
      cases document with
      | table overlay =>
          rw [load_of_parsed hread hparsed, layer?_eq_none_of_not_readable hproper hknown _
            (hunreadable _ hparsed)]
      | _ => cases htable

/-- Loading comes to what the rules say, and to nothing else: every field of what is loaded holds the
value of its variable, or else of the file, or else of the chosen profile, and what is loaded has no
problem; what fails does so for the first reason that applies, and a failure of the settings as a whole
lists every problem of them. -/
theorem load_eq_iff_outcome {files : FileSystem} {path : Option String}
    (htables : FileHasTables files path) (env : Environment) (result : Except LoadError Settings) :
    load files env path = result ↔ Outcome files env path result := by
  constructor
  · rintro rfl
    cases path with
    | none => exact outcome_load_of_declares .nothing htables env
    | some path =>
        cases hread : files.readText path with
        | error reason =>
            rw [load_of_unreadable hread]
            exact .file hread
        | ok text =>
            by_cases hreadable : ∃ document, Toml.parse? text = some document ∧ Readable document
            · obtain ⟨document, hparsed, hdocument⟩ := hreadable
              exact outcome_load_of_declares (.file hread hparsed hdocument) htables env
            · have hunreadable : ∀ document, Toml.parse? text = some document → ¬Readable document :=
                fun document hparsed hdocument => hreadable ⟨document, hparsed, hdocument⟩
              rw [load_of_not_readable hread hunreadable htables]
              exact .document hread hunreadable
  · intro houtcome
    cases houtcome with
    | file hread => exact load_of_unreadable hread env
    | document hread hunreadable => exact load_of_not_readable hread hunreadable htables env
    | environment hdeclares hbad => exact load_of_bad hdeclares htables hbad
    | invalid hdeclares hs hproblem =>
        rw [load_of_layered hdeclares htables hs, checked_of_problem hproblem]
    | loaded hdeclares hs hnone =>
        rw [load_of_layered hdeclares htables hs, checked_of_no_problem hnone]

/-- A document with a secret and a log level. -/
def secretDocument : String :=
  "[jwt]\nsecret = \"from the file\"\n[observability]\nlog_level = \"warn\"\n"

/-- A variable stands over a file, and a file over the profile that the environment names. -/
theorem load_eq_iff_outcome_production :
    FileHasTables (.ofReads [("gateway.toml", .ok (Text.utf8 secretDocument))])
        (some "gateway.toml") ∧
      Outcome (.ofReads [("gateway.toml", .ok (Text.utf8 secretDocument))])
        (fun name => [("APP_ENV", "production"), ("LOG_LEVEL", "error")].lookup name)
        (some "gateway.toml")
        (.ok { Settings.forProfile .production with
          jwt.secret := "from the file"
          observability.logLevel := "error" }) := by
  have htables : FileHasTables (.ofReads [("gateway.toml", .ok (Text.utf8 secretDocument))])
      (some "gateway.toml") := by
    intro file text document hfile hread hparsed name hname value hvalue
    cases hfile
    have hfound : ((Files.FileSystem.ofReads
        [("gateway.toml", .ok (Text.utf8 secretDocument))]).readText "gateway.toml") =
          .ok secretDocument := by
      decide +kernel
    have hall : ((Toml.parse? secretDocument).all fun document => tableNames.all fun name =>
        (document.get? name).all Toml.isTable) = true := by
      decide +kernel
    cases hread.symm.trans hfound
    rw [hparsed] at hall
    have htable := List.all_eq_true.1 hall name hname
    rw [hvalue] at htable
    exact htable
  exact ⟨htables, (load_eq_iff_outcome htables _ _).1 (by decide +kernel)⟩

end Gatehouse.Config
