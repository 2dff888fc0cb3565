import Gatehouse.Config.Load
import Gatehouse.Proofs.Token.KeySelection

/-!
# What is told of keys

Settings that differ in their keys only cannot be told apart by what is written about them: the token section
as it is shown, the problems and their messages, the key sets as they are shown. Of a key one learns whether
it is there and whether it is blank, of the secret also whether it is the one that everybody knows, and where
a key set is asked for whether the texts hold keys.
-/

namespace Gatehouse.Config

/-- Both texts are there or neither, and both are blank or neither. -/
def WrittenAlike (written other : Option String) : Prop :=
  written.map Text.blank = other.map Text.blank

instance (written other : Option String) : Decidable (WrittenAlike written other) :=
  inferInstanceAs (Decidable (_ = _))

/-- Token settings that differ in nothing but the secret and the texts of their keys. Both secrets are blank or
neither, and both are the one that everybody knows or neither. -/
structure Jwt.SameButKeys (a b : Jwt) : Prop where
  rest : b = { a with secret := b.secret, privateKey := b.privateKey, publicKey := b.publicKey }
  blank : Text.blank a.secret = Text.blank b.secret
  known : a.secret = developmentSecret ↔ b.secret = developmentSecret
  privateKey : WrittenAlike a.privateKey b.privateKey
  publicKey : WrittenAlike a.publicKey b.publicKey

/-- Settings that differ in nothing but the texts of their keys. -/
structure Settings.SameButKeys (a b : Settings) : Prop where
  rest : b = { a with jwt := b.jwt }
  jwt : a.jwt.SameButKeys b.jwt

section Written

variable {written other : Option String}

/-- A label that stands for a text tells as much as there is to tell. -/
theorem WrittenAlike.map_label (halike : WrittenAlike written other) (label : String) :
    (written.map fun _ => label) = other.map fun _ => label := by
  have hmapped := congrArg (Option.map fun _ => label) halike
  rwa [Option.map_map, Option.map_map] at hmapped

theorem WrittenAlike.exists_filled {text : String} (halike : WrittenAlike (some text) other)
    (hfilled : Text.blank text = false) :
    ∃ otherText, other = some otherText ∧ Text.blank otherText = false := by
  obtain ⟨otherText, hother, hblank⟩ := Option.map_eq_some_iff.1 (Eq.symm halike)
  exact ⟨otherText, hother, hblank.trans hfilled⟩

end Written

namespace Jwt.SameButKeys

variable {a b : Jwt} (hsame : a.SameButKeys b)
include hsame

theorem algorithm_eq : a.algorithm = b.algorithm := (congrArg Jwt.algorithm hsame.rest).symm

theorem privateKeyPath_eq : a.privateKeyPath = b.privateKeyPath :=
  (congrArg Jwt.privateKeyPath hsame.rest).symm

theorem publicKeyPath_eq : a.publicKeyPath = b.publicKeyPath :=
  (congrArg Jwt.publicKeyPath hsame.rest).symm

theorem leewaySecs_eq : a.leewaySecs = b.leewaySecs := (congrArg Jwt.leewaySecs hsame.rest).symm

theorem expiryHours_eq : a.expiryHours = b.expiryHours := (congrArg Jwt.expiryHours hsame.rest).symm

theorem shown_eq : a.shown = b.shown := by
  unfold Jwt.shown
  rw [hsame.algorithm_eq, hsame.privateKeyPath_eq, hsame.publicKeyPath_eq, hsame.leewaySecs_eq,
    hsame.expiryHours_eq, hsame.privateKey.map_label, hsame.publicKey.map_label]

theorem keyProblems_eq (profile : Profile) : a.keyProblems profile = b.keyProblems profile := by
  have hwritten : (a.publicKey.map fun pem => !Text.blank pem) =
      b.publicKey.map fun pem => !Text.blank pem := by
    have hmapped := congrArg (Option.map not) hsame.publicKey
    rwa [Option.map_map, Option.map_map] at hmapped
  unfold Jwt.keyProblems
  simp only [hsame.algorithm_eq, hsame.publicKeyPath_eq, hsame.blank, hsame.known, hwritten]

end Jwt.SameButKeys

namespace Settings.SameButKeys

variable {a b : Settings} (hsame : a.SameButKeys b)
include hsame

theorem problems_eq : a.problems = b.problems := by
  rw [hsame.rest]
  unfold Settings.problems
  dsimp only
  rw [hsame.jwt.expiryHours_eq, hsame.jwt.keyProblems_eq]

/-- Settings that are refused are refused with the same error. -/
theorem checked_eq_error_iff {e : LoadError} : a.checked = .error e ↔ b.checked = .error e := by
  unfold Settings.checked
  rw [hsame.problems_eq]
  split <;> simp

end Settings.SameButKeys

end Gatehouse.Config

namespace Gatehouse.Token

open Config (Jwt Settings Problem WrittenAlike)
open Crypto (Pem.rsaKey?)
open Files (FileSystem)

/-! ## Looking for a key -/

/-- What one learns of a key that was looked for: whether the text that was found holds one, or why there is
no text. -/
def finding (files : FileSystem) (role : KeyRole) (written path : Option String) : Except KeyError Bool :=
  (loadPem files written path role).map fun text => (Pem.rsaKey? text).isSome

/-- Both texts hold an RSA key or neither. -/
def HoldAlike (written other : Option String) : Prop :=
  (written.map fun text => (Pem.rsaKey? (Text.trim text)).isSome) =
    other.map fun text => (Pem.rsaKey? (Text.trim text)).isSome

theorem finding_eq_of_alike {written other : Option String} (files : FileSystem) (role : KeyRole)
    (path : Option String) (halike : WrittenAlike written other) (hhold : HoldAlike written other) :
    finding files role written path = finding files role other path := by
  unfold finding
  cases hblank : (written.map Text.blank).getD true with
  | true =>
      have hother : (other.map Text.blank).getD true = true := halike ▸ hblank
      rw [loadPem_of_not_written path role hblank, loadPem_of_not_written path role hother]
  | false =>
      cases written with
      | none => cases hblank
      | some text =>
          obtain ⟨otherText, rfl, hfilled⟩ := halike.exists_filled hblank
          rw [loadPem_of_written path role hblank, loadPem_of_written path role hfilled]
          exact congrArg Except.ok (Option.some.inj hhold)

/-- A private key that is there was given. -/
theorem HoldsPrivateKey.given {files : FileSystem} {jwt : Jwt} {key : Bytes}
    (hprivate : HoldsPrivateKey files jwt key) : ¬NoPrivateKey jwt := by
  obtain ⟨text, hmaterial, -⟩ := hprivate
  rintro ⟨hunwritten, hnopath⟩
  cases hmaterial with
  | written hwritten hfilled => exact Bool.false_ne_true (hfilled.symm.trans (hunwritten _ hwritten))
  | file _ hpath _ => cases hnopath.symm.trans hpath

theorem noPrivateKey_iff_of_sameButKeys {a b : Jwt} (hsame : a.SameButKeys b) :
    NoPrivateKey a ↔ NoPrivateKey b := by
  unfold NoPrivateKey
  rw [unwritten_iff, unwritten_iff, hsame.privateKey, hsame.privateKeyPath_eq]

namespace KeySet

/-! ## Key sets -/

/-- What may be known of a key set: its algorithm and whether it signs. -/
def view (keys : KeySet) : Algorithm × Bool := (keys.algorithm, keys.canSign)

def shownView (view : Algorithm × Bool) : String :=
  "KeySet \x7b algorithm: " ++ view.1.label ++ ", can_sign: " ++
    (if view.2 then "true" else "false") ++ ", .. \x7d"

theorem shown_eq_shownView (keys : KeySet) : keys.shown = shownView keys.view := rfl

theorem shownView_injective : Function.Injective shownView := by
  rintro ⟨algorithm, signs⟩ ⟨otherAlgorithm, otherSigns⟩ hshown
  cases algorithm <;> cases otherAlgorithm <;> cases signs <;> cases otherSigns <;>
    first | rfl | exact absurd hshown (by decide)

/-- A key set as it is shown tells the algorithm and whether the set signs, and nothing else. -/
theorem shown_eq_iff {keys others : KeySet} :
    keys.shown = others.shown ↔
      keys.algorithm = others.algorithm ∧ keys.canSign = others.canSign := by
  rw [shown_eq_shownView, shown_eq_shownView, shownView_injective.eq_iff, view, view, Prod.mk.injEq]

/-- What may be known of the set of RSA keys that is made of what was found. The public key has to be found
first; of the texts that were found the private one is read first. -/
def rs256View (publicFound privateFound : Except KeyError Bool) :
    Except KeyError (Algorithm × Bool) := do
  let publicHolds ← publicFound
  match privateFound with
  | .ok false => .error (.invalidPem .privateKey)
  | .error (.missing _) => if publicHolds then .ok (.rs256, false) else .error (.invalidPem .publicKey)
  | .error e => .error e
  | .ok true => if publicHolds then .ok (.rs256, true) else .error (.invalidPem .publicKey)

theorem map_view_rs256Verifier (publicText : String) :
    (rs256Verifier publicText).map view =
      if (Pem.rsaKey? publicText).isSome then .ok (.rs256, false)
      else .error (.invalidPem .publicKey) := by
  unfold rs256Verifier rsaKey
  cases Pem.rsaKey? publicText <;> rfl

theorem map_view_rs256Pair (privateText publicText : String) :
    (rs256Pair privateText publicText).map view =
      rs256View (.ok (Pem.rsaKey? publicText).isSome) (.ok (Pem.rsaKey? privateText).isSome) := by
  unfold rs256Pair rsaKey
  cases Pem.rsaKey? privateText <;> cases Pem.rsaKey? publicText <;> rfl

theorem map_view_ofSettings {jwt : Jwt} (files : FileSystem) (halgorithm : jwt.algorithm = .rs256) :
    (ofSettings files jwt).map view =
      rs256View (finding files .publicKey jwt.publicKey jwt.publicKeyPath)
        (finding files .privateKey jwt.privateKey jwt.privateKeyPath) := by
  unfold ofSettings finding
  simp only [halgorithm]
  cases loadPem files jwt.publicKey jwt.publicKeyPath .publicKey with
  | error e => rfl
  | ok publicText =>
      cases loadPem files jwt.privateKey jwt.privateKeyPath .privateKey with
      | ok privateText => exact map_view_rs256Pair privateText publicText
      | error e =>
          cases e with
          | missing => exact map_view_rs256Verifier publicText
          | read => rfl
          | invalidPem => rfl
          | unsupportedAlgorithm => rfl

/-- The algorithm of a set is the one of the settings, and the set only verifies where RSA keys were asked for
and no private one was given. -/
theorem view_of_ofSettings {files : FileSystem} {jwt : Jwt} {keys : KeySet}
    (hkeys : ofSettings files jwt = .ok keys) :
    keys.algorithm = jwt.algorithm ∧
      (keys.canSign = false ↔ jwt.algorithm = .rs256 ∧ NoPrivateKey jwt) := by
  cases halgorithm : jwt.algorithm with
  | hs256 =>
      unfold ofSettings at hkeys
      simp only [halgorithm] at hkeys
      split at hkeys
      · cases hkeys
      · cases hkeys
        exact ⟨rfl, iff_of_false nofun nofun⟩
  | rs256 =>
      cases (ofSettings_eq_ok_iff halgorithm).1 hkeys with
      | pair _ hprivate => exact ⟨rfl, iff_of_false nofun fun hnone => hprivate.given hnone.2⟩
      | verifier _ hnone => exact ⟨rfl, iff_of_true rfl ⟨rfl, hnone⟩⟩

section SameButKeys

variable {a b : Jwt} (hsame : a.SameButKeys b)
include hsame

/-- Sets that were made of both settings, whatever the files hold, are of one kind. -/
theorem view_eq_of_sameButKeys {files otherFiles : FileSystem} {keys others : KeySet}
    (hkeys : ofSettings files a = .ok keys) (hothers : ofSettings otherFiles b = .ok others) :
    keys.view = others.view := by
  obtain ⟨halgorithm, hsigns⟩ := view_of_ofSettings hkeys
  obtain ⟨hotherAlgorithm, hotherSigns⟩ := view_of_ofSettings hothers
  rw [hsame.algorithm_eq, noPrivateKey_iff_of_sameButKeys hsame, ← hotherSigns] at hsigns
  have hcanSign : keys.canSign = others.canSign := by
    rwa [Bool.eq_iff_iff, ← not_iff_not, Bool.not_eq_true, Bool.not_eq_true]
  exact Prod.ext (halgorithm.trans (hsame.algorithm_eq.trans hotherAlgorithm.symm)) hcanSign

/-- If the texts of the keys hold keys alike, the settings lead to sets of one kind or to one error. -/
theorem map_view_ofSettings_eq (files : FileSystem) (hprivate : HoldAlike a.privateKey b.privateKey)
    (hpublic : HoldAlike a.publicKey b.publicKey) :
    (ofSettings files a).map view = (ofSettings files b).map view := by
  have halgorithm := hsame.algorithm_eq
  cases hasked : a.algorithm with
  | hs256 =>
      unfold ofSettings
      simp only [hasked, halgorithm ▸ hasked, hsame.blank]
      split <;> rfl
  | rs256 =>
      rw [map_view_ofSettings files hasked, map_view_ofSettings files (halgorithm ▸ hasked),
        hsame.privateKeyPath_eq, hsame.publicKeyPath_eq,
        finding_eq_of_alike files .publicKey b.publicKeyPath hsame.publicKey hpublic,
        finding_eq_of_alike files .privateKey b.privateKeyPath hsame.privateKey hprivate]

end SameButKeys

theorem map_shown_eq_of_map_view_eq {x y : Except KeyError KeySet} (hview : x.map view = y.map view) :
    x.map shown = y.map shown := by
  have hfactors (z : Except KeyError KeySet) : z.map shown = (z.map view).map shownView := by
    cases z <;> rfl
  rw [hfactors, hfactors, hview]

/-- No text tells settings apart that differ in nothing but their keys, where the same keys are there, the same
ones are blank, and both secrets or neither are the one that everybody knows: neither the token section as it is
shown, nor the problems and their messages, nor a key set as it is shown. Of a key set one sees the algorithm
and whether it signs and nothing else, and these are the same for all sets that the settings lead to, whatever
the files hold. If the texts of the keys hold keys alike, the settings lead to the same sets as they are shown
or to the same error. -/
theorem texts_eq_of_sameButKeys {a b : Settings} (hsame : a.SameButKeys b) :
    a.jwt.shown = b.jwt.shown ∧
    a.problems = b.problems ∧
    a.problems.map Problem.message = b.problems.map Problem.message ∧
    (∀ e, a.checked = .error e ↔ b.checked = .error e) ∧
    (∀ keys others : KeySet, keys.shown = others.shown ↔
      keys.algorithm = others.algorithm ∧ keys.canSign = others.canSign) ∧
    (∀ files otherFiles keys others,
      ofSettings files a.jwt = .ok keys → ofSettings otherFiles b.jwt = .ok others →
        keys.algorithm = others.algorithm ∧ keys.canSign = others.canSign ∧
          keys.shown = others.shown) ∧
    ∀ files, HoldAlike a.jwt.privateKey b.jwt.privateKey → HoldAlike a.jwt.publicKey b.jwt.publicKey →
      (ofSettings files a.jwt).map shown = (ofSettings files b.jwt).map shown := by
  have hproblems := hsame.problems_eq
  refine ⟨hsame.jwt.shown_eq, hproblems, congrArg _ hproblems, fun e => hsame.checked_eq_error_iff,
    fun keys others => shown_eq_iff, ?_, ?_⟩
  · intro files otherFiles keys others hkeys hothers
    obtain ⟨halgorithm, hcanSign⟩ := Prod.mk.inj (view_eq_of_sameButKeys hsame.jwt hkeys hothers)
    exact ⟨halgorithm, hcanSign, shown_eq_iff.2 ⟨halgorithm, hcanSign⟩⟩
  · intro files hprivate hpublic
    exact map_shown_eq_of_map_view_eq (map_view_ofSettings_eq hsame.jwt files hprivate hpublic)

/-- Two secrets, two blank private keys and two public keys, of different lengths each. -/
theorem texts_eq_of_sameButKeys_longer :
    ∃ a b : Settings, a.SameButKeys b ∧
      a.jwt.secret.length < b.jwt.secret.length ∧
      a.jwt.shown = b.jwt.shown ∧ a.problems = b.problems ∧
      ∃ keys others, ofSettings (.ofReads []) a.jwt = .ok keys ∧
        ofSettings (.ofReads []) b.jwt = .ok others ∧ keys ≠ others ∧ keys.shown = others.shown := by
  let a : Settings :=
    { jwt :=
        { algorithm := .rs256, secret := "short", privateKey := some " ",
          publicKey := some "-----BEGIN RSA PUBLIC KEY-----MAMCAQU=-----END RSA PUBLIC KEY-----" } }
  let b : Settings :=
    { a with
      jwt :=
        { a.jwt with
          secret := "a longer one", privateKey := some "  ",
          publicKey := some "-----BEGIN RSA PUBLIC KEY-----MAQCAgEF-----END RSA PUBLIC KEY-----" } }
  have hsame : a.SameButKeys b := ⟨rfl, rfl, by decide, by decide, by decide, by decide⟩
  have hkeys : ofSettings (.ofReads []) a.jwt = .ok (.rs256 [0x30, 0x03, 0x02, 0x01, 0x05] none) := by
    decide +kernel
  have hothers :
      ofSettings (.ofReads []) b.jwt = .ok (.rs256 [0x30, 0x04, 0x02, 0x02, 0x01, 0x05] none) := by
    decide +kernel
  obtain ⟨hshown, hproblems, -, -, -, hsets, -⟩ := texts_eq_of_sameButKeys hsame
  obtain ⟨-, -, hkeysShown⟩ := hsets _ _ _ _ hkeys hothers
  exact ⟨a, b, hsame, by decide, hshown, hproblems, _, _, hkeys, hothers, by decide, hkeysShown⟩

end KeySet

end Gatehouse.Token
