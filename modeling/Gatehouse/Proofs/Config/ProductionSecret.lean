import Gatehouse.Proofs.Config.Precedence
import Gatehouse.Proofs.Config.Problems
import Gatehouse.Proofs.Token.Keys

/-!
# The secret of production

Settings that are loaded have the profile that was chosen before anything was layered, and they are
checked for that profile when nothing changes them any more. So no file and no environment leads to
settings of production whose key set is made of the secret that everybody knows.
-/

namespace Gatehouse.Config

open Files (FileSystem)
open Token (KeySet)

/-- The document at a path, if there is one. -/
def documentAt? (files : FileSystem) (path : Option String) : Option Toml :=
  path.bind fun file => (files.readText file).toOption.bind Toml.parse?

theorem documentAt?_of_parsed {files : FileSystem} {path text : String} {document : Toml}
    (hread : files.readText path = .ok text) (hparsed : Toml.parse? text = some document) :
    documentAt? files (some path) = some document := by
  rw [documentAt?, Option.bind_some, hread]
  exact hparsed

/-! ## What loading leaves as it is -/

/-- Neither the environment nor the check changes the profile, and nothing comes after the check. -/
theorem finish_eq_ok {env : Environment} {layered s : Settings}
    (hfinish : finish env layered = .ok s) : s.profile = layered.profile ∧ s.problems = [] := by
  unfold finish at hfinish
  rw [Field.withEnvironment_eq] at hfinish
  cases hbad : Field.all.findSome? (Field.badVariable? env) with
  | some bad =>
      rw [Field.applyAll_of_bad hbad] at hfinish
      cases hfinish
  | none =>
      obtain ⟨t, happlied, ht⟩ := Field.applyAll_of_no_bad Field.separate_all hbad layered
      rw [happlied] at hfinish
      obtain ⟨hnone, rfl⟩ := ite_eq_ok_iff.1 hfinish
      exact ⟨ht.profile, hnone⟩

theorem profile_of_layer? {profile : Profile} {document : Toml} {layered : Settings}
    (hlayer : layer? profile document = some layered) : layered.profile = profile := by
  obtain ⟨t, -, rfl⟩ := Option.map_eq_some_iff.1 hlayer
  rfl

/-- Loaded settings have the profile that the environment names, or else the document, and they have no
problem. -/
theorem load_eq_ok {files : FileSystem} {env : Environment} {path : Option String} {s : Settings}
    (hload : load files env path = .ok s) :
    s.profile = chosenProfile env (documentAt? files path) ∧ s.problems = [] := by
  cases path with
  | none =>
      rw [load_none] at hload
      obtain ⟨hprofile, hnone⟩ := finish_eq_ok hload
      exact ⟨hprofile.trans (Settings.profile_forProfile _), hnone⟩
  | some path =>
      cases hread : files.readText path with
      | error reason =>
          rw [load_of_unreadable hread] at hload
          cases hload
      | ok text =>
          cases hparsed : Toml.parse? text with
          | none =>
              rw [load_of_not_parsed hread hparsed] at hload
              cases hload
          | some document =>
              rw [load_of_parsed hread hparsed] at hload
              rw [documentAt?_of_parsed hread hparsed]
              split at hload
              · next layered hlayer =>
                  obtain ⟨hprofile, hnone⟩ := finish_eq_ok hload
                  exact ⟨hprofile.trans (profile_of_layer? hlayer), hnone⟩
              · cases hload

/-! ## Secrets -/

theorem keyProblems_production_eq_nil {jwt : Jwt} (halgorithm : jwt.algorithm = .hs256)
    (hnone : jwt.keyProblems .production = []) :
    Text.blank jwt.secret = false ∧ jwt.secret ≠ developmentSecret := by
  unfold Jwt.keyProblems at hnone
  rw [halgorithm] at hnone
  dsimp only at hnone
  split at hnone
  · cases hnone
  · next hfilled =>
      split at hnone
      · cases hnone
      · next hother => exact ⟨Bool.eq_false_iff.2 hfilled, fun hsame => hother ⟨rfl, hsame⟩⟩

/-- Settings of production that are loaded, wherever the profile, the secret and the algorithm were given,
never make a key set of the secret that everybody knows, and none of a blank one. -/
theorem load_production_secret {files : FileSystem} {env : Environment} {path : Option String}
    {s : Settings} (hload : load files env path = .ok s)
    (hproduction : chosenProfile env (documentAt? files path) = .production) :
    s.profile = .production ∧
      ∀ keyFiles secret, KeySet.ofSettings keyFiles s.jwt = .ok (.hs256 secret) →
        secret ≠ Text.utf8 developmentSecret ∧
          ∃ text, secret = Text.utf8 text ∧ Text.blank text = false := by
  obtain ⟨hprofile, hnone⟩ := load_eq_ok hload
  rw [hproduction] at hprofile
  refine ⟨hprofile, fun keyFiles secret hkeys => ?_⟩
  obtain ⟨halgorithm, -, rfl⟩ := KeySet.ofSettings_eq_hs256_iff.1 hkeys
  have hkeysNone := (Settings.problems_eq_nil_iff.1 hnone).keys
  rw [hprofile] at hkeysNone
  obtain ⟨hfilled, hother⟩ := keyProblems_production_eq_nil halgorithm hkeysNone
  exact ⟨fun hsame => hother (Text.utf8_injective hsame), s.jwt.secret, rfl, hfilled⟩

/-- A document of production with the secret that everybody knows. -/
def knownSecretDocument : String :=
  "profile = \"production\"\n[jwt]\nsecret = \"gateway-dev-jwt-secret-change-in-production\"\n"

/-- The profile is the document's, and a variable stands over the document's secret. -/
theorem load_production_secret_overridden :
    let files := FileSystem.ofReads [("gateway.toml", .ok (Text.utf8 knownSecretDocument))]
    let env : Environment := fun name => [("JWT_SECRET", "kept apart")].lookup name
    let s := { Settings.forProfile .production with jwt.secret := "kept apart" }
    load files env (some "gateway.toml") = .ok s ∧
      chosenProfile env (documentAt? files (some "gateway.toml")) = .production ∧
      s.profile = .production ∧
      KeySet.ofSettings files s.jwt = .ok (.hs256 (Text.utf8 "kept apart")) ∧
      Text.utf8 "kept apart" ≠ Text.utf8 developmentSecret := by
  intro files env s
  have hload : load files env (some "gateway.toml") = .ok s := by decide +kernel
  have hproduction : chosenProfile env (documentAt? files (some "gateway.toml")) = .production := by
    decide +kernel
  have hkeys : KeySet.ofSettings files s.jwt = .ok (.hs256 (Text.utf8 "kept apart")) := by
    decide +kernel
  obtain ⟨hprofile, hsecret⟩ := load_production_secret hload hproduction
  exact ⟨hload, hproduction, hprofile, hkeys, (hsecret files _ hkeys).1⟩

end Gatehouse.Config
