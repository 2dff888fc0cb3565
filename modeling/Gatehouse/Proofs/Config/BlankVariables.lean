import Gatehouse.Proofs.Config.ProductionSecret
import Mathlib.Logic.Function.Basic

/-!
# Blank variables

Loading sees no more of the environment than the profile it chooses and, of the variables that set a
field, the values that are not blank. So a blank variable counts as one that is not there, with one
exception: a blank name of the profile is a name like any other, of which development is made, and it
stands over the profile that a file names.
-/

namespace Gatehouse.Config

open Files (FileSystem)

/-! ## What loading sees of the environment -/

/-- The variables that set a field have the same values in two environments, blank values aside. -/
def SameValues (env other : Environment) : Prop :=
  ∀ v ∈ knownVariables, setValue? env v.name = setValue? other v.name

/-- Fields are set alike where the values are the same. -/
theorem SameValues.withEnvironment_eq {env other : Environment} (hsame : SameValues env other)
    (s : Settings) : s.withEnvironment env = s.withEnvironment other := by
  unfold Settings.withEnvironment
  unfold SameValues at hsame
  generalize knownVariables = known at hsame
  induction known generalizing s with
  | nil => rfl
  | cons v known ih =>
      obtain ⟨hv, hrest⟩ := List.forall_mem_cons.1 hsame
      have hstep : v.apply env s = v.apply other s := by
        rw [Variable.apply, Variable.apply, hv]
      rw [List.foldlM_cons, List.foldlM_cons, hstep]
      cases v.apply other s with
      | error bad => rfl
      | ok changed => exact ih changed hrest

/-- Where the values are the same and the same profile is chosen, loading comes to the same. -/
theorem load_congr {files : FileSystem} {env other : Environment} {path : Option String}
    (hsame : SameValues env other)
    (hprofile : chosenProfile env (documentAt? files path) =
      chosenProfile other (documentAt? files path)) :
    load files env path = load files other path := by
  have hfinish (layered : Settings) : finish env layered = finish other layered := by
    rw [finish, finish, hsame.withEnvironment_eq]
  cases path with
  | none =>
      change chosenProfile env none = chosenProfile other none at hprofile
      rw [load_none, load_none, hprofile, hfinish]
  | some path =>
      cases hread : files.readText path with
      | error reason => rw [load_of_unreadable hread, load_of_unreadable hread]
      | ok text =>
          cases hparsed : Toml.parse? text with
          | none => rw [load_of_not_parsed hread hparsed, load_of_not_parsed hread hparsed]
          | some document =>
              rw [documentAt?_of_parsed hread hparsed] at hprofile
              rw [load_of_parsed hread hparsed, load_of_parsed hread hparsed, hprofile]
              split
              · exact hfinish _
              · rfl

/-- No variable that sets a field names the profile. -/
theorem name_ne_of_mem_knownVariables : ∀ v ∈ knownVariables, v.name ≠ "APP_ENV" := by
  simp [knownVariables]

/-- What names the profile sets no field. -/
theorem sameValues_update (env : Environment) (name : Option String) :
    SameValues env (Function.update env "APP_ENV" name) := by
  intro v hv
  rw [setValue?, setValue?, Function.update_of_ne (name_ne_of_mem_knownVariables v hv)]

/-! ## Leaving blank variables out -/

/-- The environment without its blank variables has the same values. -/
theorem sameValues_setValue? (env : Environment) : SameValues env (setValue? env) := by
  intro v _
  rw [setValue?, setValue?, setValue?, Option.filter_filter]
  simp only [Bool.and_self]

/-- A blank name is no known one. -/
theorem Profile.ofName_of_blank {name : String} (hblank : Text.blank name = true) :
    Profile.ofName name = .development := by
  rw [Profile.ofName, Text.trim_eq_empty_iff.2 hblank]
  rfl

/-- The name of the profile is set, but blank. -/
def BlankName (env : Environment) : Prop :=
  ∃ name, env "APP_ENV" = some name ∧ Text.blank name = true

/-- The environment without its blank variables, but with development where the name of the profile is
blank. -/
def settled (env : Environment) : Environment :=
  Function.update (setValue? env) "APP_ENV" ((env "APP_ENV").map fun name =>
    if Text.blank name then Profile.development.name else name)

theorem sameValues_settled (env : Environment) : SameValues env (settled env) := by
  intro v hv
  rw [sameValues_setValue? env v hv]
  exact sameValues_update _ _ v hv

theorem chosenProfile_settled (env : Environment) (document : Option Toml) :
    chosenProfile env document = chosenProfile (settled env) document := by
  rw [chosenProfile, chosenProfile, settled, Function.update_self]
  cases env "APP_ENV" with
  | none => rfl
  | some name =>
      dsimp only [Option.map_some]
      split
      · next hblank => rw [Profile.ofName_of_blank hblank, Profile.ofName_name]
      · rfl

/-- A blank name chooses development. -/
theorem chosenProfile_of_blankName {env : Environment} (hblank : BlankName env)
    (document : Option Toml) : chosenProfile env document = .development := by
  obtain ⟨name, hname, hblank⟩ := hblank
  rw [chosenProfile, hname]
  exact Profile.ofName_of_blank hblank

/-- A name that is not blank, or not there at all, stays what it is. -/
theorem setValue?_of_not_blankName {env : Environment} (hname : ¬BlankName env) :
    setValue? env "APP_ENV" = env "APP_ENV" := by
  rw [setValue?]
  cases hfound : env "APP_ENV" with
  | none => rfl
  | some name =>
      cases hblank : Text.blank name with
      | true => exact absurd ⟨name, hfound, hblank⟩ hname
      | false => simp [hblank]

/-- Without its blank variables an environment chooses the same profile, unless a blank name of the
profile is among them and stands over a document of another profile than development. -/
theorem chosenProfile_setValue?_iff (env : Environment) (document : Option Toml) :
    chosenProfile env document = chosenProfile (setValue? env) document ↔
      ¬BlankName env ∨ chosenProfile (setValue? env) document = .development := by
  by_cases hblank : BlankName env
  · rw [chosenProfile_of_blankName hblank, eq_comm]
    exact (or_iff_right (not_not_intro hblank)).symm
  · refine iff_of_true ?_ (.inl hblank)
    rw [chosenProfile, chosenProfile, setValue?_of_not_blankName hblank]

/-- Loading takes a blank variable for one that is not there, except for a blank name of the profile,
which it takes for development. So without its blank variables an environment loads the same, unless a
blank name of the profile is among them, the file names another profile than development, and the two
loads do not fail alike. -/
theorem load_settled (files : FileSystem) (env : Environment) (path : Option String) :
    load files env path = load files (settled env) path ∧
      (load files env path = load files (setValue? env) path ↔
        ¬BlankName env ∨
          chosenProfile (setValue? env) (documentAt? files path) = .development ∨
          ∃ e, load files env path = .error e ∧ load files (setValue? env) path = .error e) := by
  refine ⟨load_congr (sameValues_settled env) (chosenProfile_settled env _), ?_⟩
  rw [← or_assoc, ← chosenProfile_setValue?_iff]
  constructor
  · intro hsame
    cases hload : load files env path with
    | error e => exact .inr ⟨e, rfl, hsame.symm.trans hload⟩
    | ok s =>
        rw [hload] at hsame
        exact .inl ((load_eq_ok hload).1.symm.trans (load_eq_ok hsame.symm).1)
  · rintro (hprofile | ⟨e, hload, hother⟩)
    · exact load_congr (sameValues_setValue? env) hprofile
    · rw [hload, hother]

/-- A file of testing is loaded for development when the name of the profile is set to nothing. -/
theorem load_of_blank_name :
    let files := FileSystem.ofReads [("gateway.toml", .ok (Text.utf8 "profile = \"testing\"\n"))]
    let env : Environment := fun name => [("APP_ENV", "")].lookup name
    load files env (some "gateway.toml") = .ok (.forProfile .development) ∧
      load files (setValue? env) (some "gateway.toml") = .ok (.forProfile .testing) ∧
      ¬∀ (files : FileSystem) (env : Environment) (path : Option String),
        load files env path = load files (setValue? env) path := by
  intro files env
  have hblank : load files env (some "gateway.toml") = .ok (.forProfile .development) := by
    decide +kernel
  have hunset : load files (setValue? env) (some "gateway.toml") = .ok (.forProfile .testing) := by
    decide +kernel
  refine ⟨hblank, hunset, fun halways => ?_⟩
  have hsame := halways files env (some "gateway.toml")
  rw [hblank, hunset] at hsame
  exact absurd hsame (by decide)

end Gatehouse.Config
