import Gatehouse.Proofs.Config.BlankVariables

/-!
# The profile by name

A file that names its profile and an environment that names it choose the same one: both take the name in
any letter case, with its short forms, and development for a name that is not known. But the name in a
file is also read along with all else that the file says, and there it has to be the exact name of a
profile. So any other name chooses a profile in the environment and is refused in a file.
-/

namespace Gatehouse.Config

open Files (FileSystem)

/-! ## Documents that differ in their profile -/

/-- A document with the name of a profile, over one that says the same without it. -/
structure NamesProfile (name : String) (document named : Toml) : Prop where
  undeclared : document.get? "profile" = none
  declared : named.get? "profile" = some (.str name)
  rest : ∀ key, key ≠ "profile" → named.get? key = document.get? key

/-- An entry for the profile in front of a document without one names it. -/
theorem NamesProfile.cons {entries : List (String × Toml)} (hnone : entries.lookup "profile" = none)
    (name : String) : NamesProfile name (.table entries) (.table (("profile", .str name) :: entries)) :=
  ⟨hnone, rfl, fun key hkey => (Toml.lookup_cons_ite key _ _ entries).trans (if_neg hkey)⟩

/-- What is read depends only on what stands under each key. -/
theorem ofToml?_congr {entries other : List (String × Toml)} (hkeys : Toml.DistinctKeys entries)
    (hother : Toml.DistinctKeys other) (hsame : ∀ key, entries.lookup key = other.lookup key) :
    Settings.ofToml? (.table entries) = Settings.ofToml? (.table other) := by
  have hgiven (names : List String) :
      given? names (Toml.table entries).toJson = given? names (Toml.table other).toJson := by
    rw [given?_toJson hkeys, given?_toJson hother]
    simp only [hsame]
  rw [Settings.ofToml?, Settings.read, hgiven]
  rfl

/-- A text is read as a profile if it is the exact name of one. -/
theorem readProfile_str_eq_some_iff {name : String} {profile : Profile} :
    readProfile emptyInToml (.str name) = some profile ↔ profile.name = name := by
  constructor
  · intro hread
    simpa using List.find?_some hread
  · rintro rfl
    exact readProfile_name profile

/-- Settings are not read from a document with another name of a profile than an exact one. -/
theorem ofToml?_of_unknown_name {entries : List (String × Toml)} (hkeys : Toml.DistinctKeys entries)
    {name : String} (hname : entries.lookup "profile" = some (.str name))
    (hunknown : ¬∃ profile : Profile, profile.name = name) :
    Settings.ofToml? (.table entries) = none := by
  have hread : readProfile emptyInToml (.str name) = none := by
    cases hfound : readProfile emptyInToml (.str name) with
    | none => rfl
    | some profile => exact absurd ⟨profile, readProfile_str_eq_some_iff.1 hfound⟩ hunknown
  rw [Settings.ofToml?, Settings.read, given?_toJson hkeys, Option.bind_eq_bind, Option.bind_some]
  dsimp only
  rw [field_lookup, readEntry_of_lookup hname, Toml.toJson, hread]
  rfl

section Layers

variable {name : String} {document named : List (String × Toml)}
  (hnames : NamesProfile name (.table document) (.table named))

include hnames

/-- Over the same settings the two documents come to the same under each key but the profile. -/
theorem NamesProfile.lookup_mergeEntries (hdocument : Toml.DistinctKeys document)
    (hnamed : Toml.DistinctKeys named) (base : List (String × Toml)) {key : String}
    (hkey : key ≠ "profile") :
    (Toml.mergeEntries base named).lookup key = (Toml.mergeEntries base document).lookup key := by
  have hrest : named.lookup key = document.lookup key := hnames.rest key hkey
  rw [Toml.lookup_mergeEntries hnamed, Toml.lookup_mergeEntries hdocument, hrest]

/-- A document that names its profile is laid over a profile as the one that does not, if the name is the
profile's own. -/
theorem NamesProfile.layer?_eq (hdocument : Toml.Proper (.table document))
    (hnamed : Toml.Proper (.table named)) {profile : Profile} (hname : profile.name = name) :
    layer? profile (.table named) = layer? profile (.table document) := by
  obtain ⟨base, hbase, hwhole, hprofile⟩ := isWhole_toToml (Settings.forProfile profile)
  rw [Settings.profile_forProfile, hname] at hprofile
  have hunder : named.lookup "profile" = some (.str name) := hnames.declared
  have hnone : document.lookup "profile" = none := hnames.undeclared
  have hsame : ∀ key,
      (Toml.mergeEntries base named).lookup key = (Toml.mergeEntries base document).lookup key := by
    intro key
    by_cases hkey : key = "profile"
    · subst hkey
      rw [Toml.lookup_mergeEntries hnamed.distinctKeys, hunder,
        Toml.lookup_mergeEntries hdocument.distinctKeys, hnone, hprofile]
      exact congrArg some (Toml.merge_of_not_isTable rfl _)
    · exact hnames.lookup_mergeEntries hdocument.distinctKeys hnamed.distinctKeys base hkey
  rw [layer?, layer?, hbase, Toml.merge_table_table, Toml.merge_table_table,
    ofToml?_congr (hwhole.keys.mergeEntries named) (hwhole.keys.mergeEntries document) hsame]

omit hnames in
/-- A document that names its profile otherwise than by an exact name is laid over no profile. -/
theorem layer?_of_unknown_name (hnamed : Toml.DistinctKeys named)
    (hunder : named.lookup "profile" = some (.str name))
    (hunknown : ¬∃ profile : Profile, profile.name = name) (profile : Profile) :
    layer? profile (.table named) = none := by
  obtain ⟨base, hbase, hwhole, hprofile⟩ := isWhole_toToml (Settings.forProfile profile)
  have hmerged : (Toml.mergeEntries base named).lookup "profile" = some (.str name) := by
    rw [Toml.lookup_mergeEntries hnamed, hunder, hprofile]
    exact congrArg some (Toml.merge_of_not_isTable rfl _)
  rw [layer?, hbase, Toml.merge_table_table,
    ofToml?_of_unknown_name (hwhole.keys.mergeEntries named) hmerged hunknown]
  rfl

end Layers

/-! ## The name in a file and in the environment -/

/-- The text and the entries of a document at a path. -/
theorem exists_of_documentAt? {files : FileSystem} {path : Option String} {document : Toml}
    (hdocument : documentAt? files path = some document) :
    ∃ file text entries, path = some file ∧ files.readText file = .ok text ∧
      Toml.parse? text = some document ∧ document = .table entries ∧ Toml.Proper document := by
  obtain ⟨file, rfl, hfile⟩ := Option.bind_eq_some_iff.1 hdocument
  obtain ⟨text, htext, hparsed⟩ := Option.bind_eq_some_iff.1 hfile
  obtain ⟨htable, hproper⟩ := Toml.proper_of_parse? hparsed
  have hread : files.readText file = .ok text := by
    cases hfound : files.readText file with
    | error reason =>
        rw [hfound] at htext
        cases htext
    | ok found =>
        rw [hfound] at htext
        cases htext
        rfl
  cases document with
  | table entries => exact ⟨file, text, entries, rfl, hread, hparsed, rfl, hproper⟩
  | _ => cases htable

/-- A file with a name of its profile is loaded as the file without it under an environment with that
name, if the name is the exact one of a profile. With any other name the file is refused, and so the two
agree only where the file without it is refused as well. -/
theorem load_named_profile {files namedFiles : FileSystem} {path namedPath : Option String}
    {document named : Toml} {name : String} {env : Environment}
    (hdocument : documentAt? files path = some document)
    (hnamed : documentAt? namedFiles namedPath = some named)
    (hnames : NamesProfile name document named) (hunset : env "APP_ENV" = none) :
    (load namedFiles env namedPath = load files (Function.update env "APP_ENV" (some name)) path ↔
        (∃ profile : Profile, profile.name = name) ∨
          load files (Function.update env "APP_ENV" (some name)) path = .error .document) ∧
      ((¬∃ profile : Profile, profile.name = name) →
        load namedFiles env namedPath = .error .document) := by
  obtain ⟨file, text, entries, rfl, hread, hparsed, rfl, hproper⟩ := exists_of_documentAt? hdocument
  obtain ⟨namedFile, namedText, namedEntries, rfl, hnamedRead, hnamedParsed, rfl, hnamedProper⟩ :=
    exists_of_documentAt? hnamed
  have hchosen : chosenProfile env (some (.table namedEntries)) = .ofName name := by
    rw [chosenProfile, hunset, Option.bind_some, hnames.declared]
  have hother : chosenProfile (Function.update env "APP_ENV" (some name)) (some (.table entries)) =
      .ofName name := by
    rw [chosenProfile, Function.update_self]
  -- A name that is not exact passes the choice, but not the reading of the document as a whole.
  have hrefused (hunknown : ¬∃ profile : Profile, profile.name = name) :
      load namedFiles env (some namedFile) = .error .document := by
    rw [load_of_parsed hnamedRead hnamedParsed,
      layer?_of_unknown_name hnamedProper.distinctKeys hnames.declared hunknown]
  refine ⟨⟨fun hsame => ?_, ?_⟩, hrefused⟩
  · by_cases hknown : ∃ profile : Profile, profile.name = name
    · exact .inl hknown
    · exact .inr (hsame.symm.trans (hrefused hknown))
  · intro hcase
    by_cases hknown : ∃ profile : Profile, profile.name = name
    · obtain ⟨profile, rfl⟩ := hknown
      rw [load_of_parsed hnamedRead hnamedParsed, load_of_parsed hread hparsed, hchosen, hother,
        Profile.ofName_name, hnames.layer?_eq hproper hnamedProper rfl]
      split
      · next layered hlayered =>
          rw [finish, finish, (sameValues_update env (some profile.name)).withEnvironment_eq]
      · rfl
    · rw [hrefused hknown, hcase.resolve_left hknown]

/-- The only file, with a text. -/
def onlyFile (text : String) : FileSystem := .ofReads [("gateway.toml", .ok (Text.utf8 text))]

theorem documentAt?_onlyFile (text : String) :
    documentAt? (onlyFile text) (some "gateway.toml") = Toml.parse? text := by
  have hread : (onlyFile text).readText "gateway.toml" = .ok text := by
    have hbytes : (onlyFile text).read "gateway.toml" = .ok (Text.utf8 text) := rfl
    rw [FileSystem.readText, hbytes]
    dsimp only
    rw [Text.ofUtf8?_utf8]
  rw [documentAt?, Option.bind_some, hread]
  rfl

/-- Whether a document says nothing but the name of its profile. -/
def saysOnlyProfile (name : String) : Toml → Bool
  | .table [(key, .str text)] => key = "profile" && text = name
  | _ => false

theorem eq_of_saysOnlyProfile {name : String} {document : Toml}
    (honly : saysOnlyProfile name document = true) : document = .table [("profile", .str name)] := by
  unfold saysOnlyProfile at honly
  split at honly
  · simp only [Bool.and_eq_true, decide_eq_true_eq] at honly
    rw [honly.1, honly.2]
  · cases honly

theorem parse?_of_saysOnlyProfile {name text : String}
    (honly : (Toml.parse? text).any (saysOnlyProfile name) = true) :
    Toml.parse? text = some (.table [("profile", .str name)]) := by
  obtain ⟨document, hparsed, hdocument⟩ := (Option.any_eq_true _ _).1 honly
  rw [hparsed, eq_of_saysOnlyProfile hdocument]

/-- Testing in a file is testing in the environment. -/
theorem load_named_profile_testing :
    let document : Toml := .table []
    let named : Toml := .table [("profile", .str "testing")]
    let env : Environment := fun _ => none
    documentAt? (onlyFile "") (some "gateway.toml") = some document ∧
      documentAt? (onlyFile "profile = \"testing\"\n") (some "gateway.toml") = some named ∧
      NamesProfile "testing" document named ∧ env "APP_ENV" = none ∧
      load (onlyFile "profile = \"testing\"\n") env (some "gateway.toml") =
        load (onlyFile "") (Function.update env "APP_ENV" (some "testing")) (some "gateway.toml") := by
  intro document named env
  have hdocument : documentAt? (onlyFile "") (some "gateway.toml") = some document :=
    (documentAt?_onlyFile "").trans rfl
  have hnamed : documentAt? (onlyFile "profile = \"testing\"\n") (some "gateway.toml") = some named :=
    (documentAt?_onlyFile _).trans (parse?_of_saysOnlyProfile (by decide +kernel))
  have hnames : NamesProfile "testing" document named := .cons rfl "testing"
  exact ⟨hdocument, hnamed, hnames, rfl,
    (load_named_profile hdocument hnamed hnames rfl).1.2 (.inl ⟨.testing, rfl⟩)⟩

/-- The short form of testing chooses it in the environment and is refused in a file. -/
theorem load_short_name :
    load (onlyFile "profile = \"test\"\n") (fun _ => none) (some "gateway.toml") =
        .error .document ∧
      load (onlyFile "") (Function.update (fun _ => none) "APP_ENV" (some "test"))
        (some "gateway.toml") = .ok (.forProfile .testing) ∧
      ¬∀ (files namedFiles : FileSystem) (path namedPath : Option String) (document named : Toml)
        (name : String) (env : Environment), documentAt? files path = some document →
        documentAt? namedFiles namedPath = some named → NamesProfile name document named →
        env "APP_ENV" = none →
        load namedFiles env namedPath =
          load files (Function.update env "APP_ENV" (some name)) path := by
  have hrefused : load (onlyFile "profile = \"test\"\n") (fun _ => none) (some "gateway.toml") =
      .error .document := by
    decide +kernel
  have hloaded : load (onlyFile "") (Function.update (fun _ => none) "APP_ENV" (some "test"))
      (some "gateway.toml") = .ok (.forProfile .testing) := by
    decide +kernel
  refine ⟨hrefused, hloaded, fun halways => ?_⟩
  have hempty : documentAt? (onlyFile "") (some "gateway.toml") = some (.table []) :=
    (documentAt?_onlyFile "").trans rfl
  have hnamed : documentAt? (onlyFile "profile = \"test\"\n") (some "gateway.toml") =
      some (.table [("profile", .str "test")]) :=
    (documentAt?_onlyFile _).trans (parse?_of_saysOnlyProfile (by decide +kernel))
  have hsame := halways _ _ _ _ _ _ _ (fun _ => none) hempty hnamed (.cons rfl "test") rfl
  rw [hrefused, hloaded] at hsame
  cases hsame

end Gatehouse.Config
