import Gatehouse.Proofs.Sequencing
import Gatehouse.Proofs.Text.Blank
import Gatehouse.Token.Issuer

/-!
# Keys that are missing

A key is missing when nothing is given for it, and only then: a file that cannot be read and a text that
is no key are errors of their own. A private key that is missing never stops a key set.
-/

namespace Gatehouse.Token

open Config (Jwt)
open Files (FileSystem)

/-- A key that is written in place and not blank is used as it is written, blanks around it aside. -/
theorem loadPem_of_written {files : FileSystem} {written : String} (path : Option String)
    (role : KeyRole) (hfilled : Text.blank written = false) :
    loadPem files (some written) path role = .ok (Text.trim written) := by
  have hkept : Text.trim written ≠ "" := fun hnothing => by
    rw [Text.trim_eq_empty_iff.1 hnothing] at hfilled
    cases hfilled
  have hused : ((some written).map Text.trim).filter (· ≠ "") = some (Text.trim written) := by
    simp [hkept]
  unfold loadPem
  rw [hused]

/-- Otherwise the file is read, if there is one. -/
theorem loadPem_of_not_written {files : FileSystem} {written : Option String}
    (path : Option String) (role : KeyRole) (hblank : (written.map Text.blank).getD true = true) :
    loadPem files written path role =
      match path with
      | none => .error (.missing role)
      | some path => (files.readText path).mapError (.read role path) := by
  have hnothing : (written.map Text.trim).filter (· ≠ "") = none := by
    cases written with
    | none => rfl
    | some written => simp [Text.trim_eq_empty_iff.2 hblank]
  unfold loadPem
  rw [hnothing]
  cases path with
  | none => rfl
  | some path =>
      dsimp only
      cases files.readText path <;> rfl

theorem loadPem_eq_missing_iff {files : FileSystem} {written path : Option String}
    {role missing : KeyRole} :
    loadPem files written path role = .error (.missing missing) ↔
      missing = role ∧ (written.map Text.blank).getD true = true ∧ path = none := by
  cases hblank : (written.map Text.blank).getD true with
  | true =>
      rw [loadPem_of_not_written path role hblank]
      cases path with
      | none => simp [eq_comm]
      | some path =>
          dsimp only
          cases files.readText path <;> simp [Except.mapError]
  | false =>
      obtain ⟨written, rfl⟩ : ∃ text, written = some text := by
        cases written with
        | none => cases hblank
        | some written => exact ⟨written, rfl⟩
      rw [loadPem_of_written path role hblank]
      simp

/-! ## Key sets -/

theorem rsaKey_ne_missing {role missing : KeyRole} {text : String} :
    rsaKey role text ≠ .error (.missing missing) := by
  unfold rsaKey
  split <;> simp

theorem KeySet.rs256Verifier_ne_missing {text : String} {role : KeyRole} :
    KeySet.rs256Verifier text ≠ .error (.missing role) := by
  intro hmissing
  unfold KeySet.rs256Verifier at hmissing
  cases hkey : rsaKey .publicKey text with
  | ok key =>
      rw [hkey] at hmissing
      cases hmissing
  | error e =>
      rw [hkey] at hmissing
      cases hmissing
      exact rsaKey_ne_missing hkey

theorem KeySet.rs256Pair_ne_missing {privateText publicText : String} {role : KeyRole} :
    KeySet.rs256Pair privateText publicText ≠ .error (.missing role) := by
  intro hmissing
  rcases bind_eq_error_iff.1 hmissing with hprivate | ⟨signing, -, hmissing⟩
  · exact rsaKey_ne_missing hprivate
  · rcases bind_eq_error_iff.1 hmissing with hpublic | ⟨verification, -, hmissing⟩
    · exact rsaKey_ne_missing hpublic
    · cases hmissing

/-- The keys that can be missing are the secret of HS256, when it is blank, and the public key of RS256,
when nothing is given for it. -/
theorem KeySet.ofSettings_eq_missing_iff {files : FileSystem} {jwt : Jwt} {role : KeyRole} :
    KeySet.ofSettings files jwt = .error (.missing role) ↔
      (role = .secret ∧ jwt.algorithm = .hs256 ∧ Text.blank jwt.secret = true) ∨
        (role = .publicKey ∧ jwt.algorithm = .rs256 ∧
          (jwt.publicKey.map Text.blank).getD true = true ∧ jwt.publicKeyPath = none) := by
  unfold KeySet.ofSettings
  cases halgorithm : jwt.algorithm with
  | hs256 =>
      cases hblank : Text.blank jwt.secret with
      | true => simp [@eq_comm _ role]
      | false => simp
  | rs256 =>
      dsimp only
      rw [bind_eq_error_iff, loadPem_eq_missing_iff]
      constructor
      · rintro (hmissing | ⟨publicText, -, hmissing⟩)
        · exact .inr ⟨hmissing.1, rfl, hmissing.2⟩
        · -- With a public key at hand, a missing private key leaves a set that only verifies.
          split at hmissing
          · exact absurd hmissing KeySet.rs256Pair_ne_missing
          · exact absurd hmissing KeySet.rs256Verifier_ne_missing
          · next e hother _ =>
              cases hmissing
              exact absurd rfl (hother role)
      · rintro (⟨-, hother, -⟩ | ⟨hrole, -, hnothing⟩)
        · cases hother
        · exact .inl ⟨hrole, hnothing⟩

theorem KeySet.ofSettings_of_filled {files : FileSystem} {jwt : Jwt}
    (halgorithm : jwt.algorithm = .hs256) (hfilled : Text.blank jwt.secret = false) :
    KeySet.ofSettings files jwt = .ok (.hs256 (Text.utf8 jwt.secret)) := by
  unfold KeySet.ofSettings
  rw [halgorithm, hfilled]
  rfl

/-- A key set of HS256 is made of a secret that is not blank, and of no other setting. -/
theorem KeySet.ofSettings_eq_hs256_iff {files : FileSystem} {jwt : Jwt} {secret : Bytes} :
    KeySet.ofSettings files jwt = .ok (.hs256 secret) ↔
      jwt.algorithm = .hs256 ∧ Text.blank jwt.secret = false ∧ secret = Text.utf8 jwt.secret := by
  constructor
  · intro hkeys
    cases halgorithm : jwt.algorithm with
    | hs256 =>
        cases hblank : Text.blank jwt.secret with
        | true =>
            rw [KeySet.ofSettings_eq_missing_iff.2 (.inl ⟨rfl, halgorithm, hblank⟩)] at hkeys
            cases hkeys
        | false =>
            rw [KeySet.ofSettings_of_filled halgorithm hblank] at hkeys
            cases hkeys
            exact ⟨rfl, rfl, rfl⟩
    | rs256 =>
        unfold KeySet.ofSettings at hkeys
        rw [halgorithm] at hkeys
        obtain ⟨publicText, -, hkeys⟩ := bind_eq_ok_iff.1 hkeys
        split at hkeys
        · obtain ⟨signing, -, hkeys⟩ := bind_eq_ok_iff.1 hkeys
          obtain ⟨verification, -, hkeys⟩ := bind_eq_ok_iff.1 hkeys
          cases hkeys
        · obtain ⟨verification, -, hkeys⟩ := map_eq_ok_iff.1 hkeys
          cases hkeys
        · cases hkeys
  · rintro ⟨halgorithm, hfilled, rfl⟩
    exact KeySet.ofSettings_of_filled halgorithm hfilled

/-! ## Tokens that are not signed -/

theorem KeySet.sign_ne_invalidInput {keys : KeySet} {text : List Char} {problem : InputProblem} :
    keys.sign text ≠ .error (.invalidInput problem) := by
  intro hfailed
  unfold KeySet.sign at hfailed
  dsimp only at hfailed
  split at hfailed
  · cases hfailed
  · cases hfailed
  · split at hfailed <;> cases hfailed

/-- What goes wrong when a payload is signed is never what was asked for. -/
theorem KeySet.tokenOf_ne_invalidInput {keys : KeySet} {payload : Payload} {problem : InputProblem} :
    keys.tokenOf payload ≠ .error (.invalidInput problem) := by
  intro hfailed
  rw [KeySet.tokenOf] at hfailed
  cases hsigned : keys.sign (signedText keys.algorithm payload) with
  | ok signature =>
      rw [hsigned] at hfailed
      cases hfailed
  | error e =>
      rw [hsigned] at hfailed
      cases hfailed
      exact KeySet.sign_ne_invalidInput hsigned

end Gatehouse.Token
