import Gatehouse.Proofs.Token.Issuance
import Gatehouse.Proofs.Token.Keys

/-!
# Which keys are selected

A key that is written in place comes before its file, and a key that was given is never passed over: it is
used, or there are no keys. So a set that only verifies stands for a private key that nobody gave, and
tokens are never made with it.
-/

namespace Gatehouse.Token

open Config (Jwt)
open Crypto (Pem.rsaKey?)
open Files (FileSystem)

/-! ## Where a key comes from -/

/-- Nothing but blanks is written in place. -/
def Unwritten (written : Option String) : Prop := ∀ text, written = some text → Text.blank text = true

theorem unwritten_iff {written : Option String} :
    Unwritten written ↔ (written.map Text.blank).getD true = true := by
  cases written with
  | none => exact iff_of_true nofun rfl
  | some text => simp [Unwritten]

/-- The text of a key, or why there is none: what is written in place counts first, whatever the path is,
then the file behind the path. -/
inductive Material (files : FileSystem) (role : KeyRole) (written path : Option String) :
    Except KeyError String → Prop
  | written {text : String} (hwritten : written = some text) (hfilled : Text.blank text = false) :
      Material files role written path (.ok (Text.trim text))
  | file {name text : String} (hwritten : Unwritten written) (hpath : path = some name)
      (hread : files.readText name = .ok text) : Material files role written path (.ok text)
  | unreadable {name : String} {reason : Files.FileError} (hwritten : Unwritten written)
      (hpath : path = some name) (hread : files.readText name = .error reason) :
      Material files role written path (.error (.read role name reason))
  | missing (hwritten : Unwritten written) (hpath : path = none) :
      Material files role written path (.error (.missing role))

section Material

variable {files : FileSystem} {role : KeyRole} {written path : Option String}
  {found : Except KeyError String}

theorem material_loadPem (files : FileSystem) (role : KeyRole) (written path : Option String) :
    Material files role written path (loadPem files written path role) := by
  cases hblank : (written.map Text.blank).getD true with
  | true =>
      have hwritten := unwritten_iff.2 hblank
      rw [loadPem_of_not_written path role hblank]
      cases path with
      | none => exact .missing hwritten rfl
      | some name =>
          dsimp only
          cases hread : files.readText name with
          | ok text => exact .file hwritten rfl hread
          | error reason => exact .unreadable hwritten rfl hread
  | false =>
      cases written with
      | none => cases hblank
      | some text =>
          rw [loadPem_of_written path role hblank]
          exact .written rfl hblank

theorem loadPem_eq_iff : loadPem files written path role = found ↔ Material files role written path found := by
  constructor
  · rintro rfl
    exact material_loadPem files role written path
  · rintro (⟨hwritten, hfilled⟩ | ⟨hwritten, hpath, hread⟩ | ⟨hwritten, hpath, hread⟩ |
      ⟨hwritten, hpath⟩)
    · rw [hwritten, loadPem_of_written path role hfilled]
    · rw [loadPem_of_not_written path role (unwritten_iff.1 hwritten), hpath]
      simp only [hread]
      rfl
    · rw [loadPem_of_not_written path role (unwritten_iff.1 hwritten), hpath]
      simp only [hread]
      rfl
    · rw [loadPem_of_not_written path role (unwritten_iff.1 hwritten), hpath]

end Material

/-- A key was found and is one. -/
def HoldsKey (files : FileSystem) (role : KeyRole) (written path : Option String) (key : Bytes) : Prop :=
  ∃ text, Material files role written path (.ok text) ∧ Pem.rsaKey? text = some key

theorem rsaKey_eq_ok_iff {role : KeyRole} {text : String} {key : Bytes} :
    rsaKey role text = .ok key ↔ Pem.rsaKey? text = some key := by
  unfold rsaKey
  cases Pem.rsaKey? text <;> simp

theorem rsaKey_eq_error_iff {role : KeyRole} {text : String} {e : KeyError} :
    rsaKey role text = .error e ↔ Pem.rsaKey? text = none ∧ e = .invalidPem role := by
  unfold rsaKey
  cases Pem.rsaKey? text <;> simp [eq_comm]

/-! ## Sets of RSA keys -/

/-- Neither a written private key nor a file with one is given. -/
def NoPrivateKey (jwt : Jwt) : Prop := Unwritten jwt.privateKey ∧ jwt.privateKeyPath = none

def HoldsPublicKey (files : FileSystem) (jwt : Jwt) (key : Bytes) : Prop :=
  HoldsKey files .publicKey jwt.publicKey jwt.publicKeyPath key

def HoldsPrivateKey (files : FileSystem) (jwt : Jwt) (key : Bytes) : Prop :=
  HoldsKey files .privateKey jwt.privateKey jwt.privateKeyPath key

/-- The set of the keys that are there. Only where no private key was given there is none in it. -/
inductive SelectsKeys (files : FileSystem) (jwt : Jwt) : KeySet → Prop
  | pair {verification signing : Bytes} (hpublic : HoldsPublicKey files jwt verification)
      (hprivate : HoldsPrivateKey files jwt signing) :
      SelectsKeys files jwt (.rs256 verification (some signing))
  | verifier {verification : Bytes} (hpublic : HoldsPublicKey files jwt verification)
      (hnone : NoPrivateKey jwt) : SelectsKeys files jwt (.rs256 verification none)

/-- What is wrong with the keys. The public key has to be had first, then the private one if it was given;
of the texts that were found the private one is read first. -/
inductive RefusesKeys (files : FileSystem) (jwt : Jwt) : KeyError → Prop
  | noPublic {e : KeyError}
      (hpublic : Material files .publicKey jwt.publicKey jwt.publicKeyPath (.error e)) :
      RefusesKeys files jwt e
  | noPrivate {publicText : String} {e : KeyError}
      (hpublic : Material files .publicKey jwt.publicKey jwt.publicKeyPath (.ok publicText))
      (hgiven : ¬NoPrivateKey jwt)
      (hprivate : Material files .privateKey jwt.privateKey jwt.privateKeyPath (.error e)) :
      RefusesKeys files jwt e
  | badPrivate {publicText privateText : String}
      (hpublic : Material files .publicKey jwt.publicKey jwt.publicKeyPath (.ok publicText))
      (hprivate : Material files .privateKey jwt.privateKey jwt.privateKeyPath (.ok privateText))
      (hbad : Pem.rsaKey? privateText = none) : RefusesKeys files jwt (.invalidPem .privateKey)
  | badPublic {publicText : String}
      (hpublic : Material files .publicKey jwt.publicKey jwt.publicKeyPath (.ok publicText))
      (hprivate : NoPrivateKey jwt ∨ ∃ key, HoldsPrivateKey files jwt key)
      (hbad : Pem.rsaKey? publicText = none) : RefusesKeys files jwt (.invalidPem .publicKey)

namespace KeySet

theorem rs256Verifier_eq_ok_iff {text : String} {keys : KeySet} :
    rs256Verifier text = .ok keys ↔ ∃ key, Pem.rsaKey? text = some key ∧ .rs256 key none = keys := by
  simp only [rs256Verifier, map_eq_ok_iff, rsaKey_eq_ok_iff]

theorem rs256Verifier_eq_error_iff {text : String} {e : KeyError} :
    rs256Verifier text = .error e ↔ Pem.rsaKey? text = none ∧ e = .invalidPem .publicKey := by
  rw [← rsaKey_eq_error_iff, rs256Verifier]
  cases rsaKey .publicKey text <;> simp [Except.map]

theorem rs256Pair_eq_ok_iff {privateText publicText : String} {keys : KeySet} :
    rs256Pair privateText publicText = .ok keys ↔
      ∃ signing, Pem.rsaKey? privateText = some signing ∧
        ∃ verification, Pem.rsaKey? publicText = some verification ∧
          .rs256 verification (some signing) = keys := by
  simp only [rs256Pair, bind_eq_ok_iff, rsaKey_eq_ok_iff]
  simp only [pure, Except.pure, Except.ok.injEq]

/-- The private key is looked at first. -/
theorem rs256Pair_eq_error_iff {privateText publicText : String} {e : KeyError} :
    rs256Pair privateText publicText = .error e ↔
      (Pem.rsaKey? privateText = none ∧ e = .invalidPem .privateKey) ∨
        ∃ signing, Pem.rsaKey? privateText = some signing ∧ Pem.rsaKey? publicText = none ∧
          e = .invalidPem .publicKey := by
  simp only [rs256Pair, bind_eq_error_iff, rsaKey_eq_ok_iff, rsaKey_eq_error_iff]
  simp [pure, Except.pure]

section Selection

variable {files : FileSystem} {jwt : Jwt}

theorem ofSettings_of_noPublic (halgorithm : jwt.algorithm = .rs256) {e : KeyError}
    (hpublic : Material files .publicKey jwt.publicKey jwt.publicKeyPath (.error e)) :
    ofSettings files jwt = .error e := by
  unfold ofSettings
  simp only [halgorithm, loadPem_eq_iff.2 hpublic]
  rfl

theorem ofSettings_of_noPrivate (halgorithm : jwt.algorithm = .rs256) {publicText : String}
    (hpublic : Material files .publicKey jwt.publicKey jwt.publicKeyPath (.ok publicText))
    (hnone : NoPrivateKey jwt) : ofSettings files jwt = rs256Verifier publicText := by
  unfold ofSettings
  simp only [halgorithm, loadPem_eq_iff.2 hpublic, loadPem_eq_iff.2 (.missing hnone.1 hnone.2)]
  rfl

/-- The error of a private key that was given is not passed over. -/
theorem ofSettings_of_unreadable (halgorithm : jwt.algorithm = .rs256) {publicText : String}
    (hpublic : Material files .publicKey jwt.publicKey jwt.publicKeyPath (.ok publicText))
    (hgiven : ¬NoPrivateKey jwt) {e : KeyError}
    (hprivate : Material files .privateKey jwt.privateKey jwt.privateKeyPath (.error e)) :
    ofSettings files jwt = .error e := by
  have hloaded := loadPem_eq_iff.2 hprivate
  unfold ofSettings
  simp only [halgorithm, loadPem_eq_iff.2 hpublic, hloaded]
  cases hprivate with
  | unreadable => rfl
  | missing hwritten hpath => exact absurd ⟨hwritten, hpath⟩ hgiven

theorem ofSettings_of_both (halgorithm : jwt.algorithm = .rs256) {publicText privateText : String}
    (hpublic : Material files .publicKey jwt.publicKey jwt.publicKeyPath (.ok publicText))
    (hprivate : Material files .privateKey jwt.privateKey jwt.privateKeyPath (.ok privateText)) :
    ofSettings files jwt = rs256Pair privateText publicText := by
  unfold ofSettings
  simp only [halgorithm, loadPem_eq_iff.2 hpublic, loadPem_eq_iff.2 hprivate]
  rfl

/-- One of the four is the case. -/
theorem rs256_cases (files : FileSystem) (jwt : Jwt) :
    (∃ e, Material files .publicKey jwt.publicKey jwt.publicKeyPath (.error e)) ∨
    ∃ publicText, Material files .publicKey jwt.publicKey jwt.publicKeyPath (.ok publicText) ∧
      (NoPrivateKey jwt ∨
        (¬NoPrivateKey jwt ∧
          ∃ e, Material files .privateKey jwt.privateKey jwt.privateKeyPath (.error e)) ∨
        ∃ privateText,
          Material files .privateKey jwt.privateKey jwt.privateKeyPath (.ok privateText)) := by
  have hpublic := material_loadPem files .publicKey jwt.publicKey jwt.publicKeyPath
  have hprivate := material_loadPem files .privateKey jwt.privateKey jwt.privateKeyPath
  cases hloaded : loadPem files jwt.publicKey jwt.publicKeyPath .publicKey with
  | error e => exact .inl ⟨e, hloaded ▸ hpublic⟩
  | ok publicText =>
      refine .inr ⟨publicText, hloaded ▸ hpublic, ?_⟩
      by_cases hnone : NoPrivateKey jwt
      · exact .inl hnone
      · cases hloaded : loadPem files jwt.privateKey jwt.privateKeyPath .privateKey with
        | error e => exact .inr (.inl ⟨hnone, e, hloaded ▸ hprivate⟩)
        | ok privateText => exact .inr (.inr ⟨privateText, hloaded ▸ hprivate⟩)

/-- There are keys exactly when the public one is there and the private one is there or was not given. -/
theorem ofSettings_eq_ok_iff (halgorithm : jwt.algorithm = .rs256) {keys : KeySet} :
    ofSettings files jwt = .ok keys ↔ SelectsKeys files jwt keys := by
  constructor
  · intro hkeys
    rcases rs256_cases files jwt with ⟨e, hpublic⟩ |
      ⟨publicText, hpublic, hnone | ⟨hgiven, e, hprivate⟩ | ⟨privateText, hprivate⟩⟩
    · rw [ofSettings_of_noPublic halgorithm hpublic] at hkeys
      cases hkeys
    · rw [ofSettings_of_noPrivate halgorithm hpublic hnone, rs256Verifier_eq_ok_iff] at hkeys
      obtain ⟨key, hkey, rfl⟩ := hkeys
      exact .verifier ⟨publicText, hpublic, hkey⟩ hnone
    · rw [ofSettings_of_unreadable halgorithm hpublic hgiven hprivate] at hkeys
      cases hkeys
    · rw [ofSettings_of_both halgorithm hpublic hprivate, rs256Pair_eq_ok_iff] at hkeys
      obtain ⟨signing, hsigning, verification, hverification, rfl⟩ := hkeys
      exact .pair ⟨publicText, hpublic, hverification⟩ ⟨privateText, hprivate, hsigning⟩
  · rintro (⟨⟨publicText, hpublic, hverification⟩, privateText, hprivate, hsigning⟩ |
      ⟨⟨publicText, hpublic, hverification⟩, hnone⟩)
    · rw [ofSettings_of_both halgorithm hpublic hprivate, rs256Pair_eq_ok_iff]
      exact ⟨_, hsigning, _, hverification, rfl⟩
    · rw [ofSettings_of_noPrivate halgorithm hpublic hnone, rs256Verifier_eq_ok_iff]
      exact ⟨_, hverification, rfl⟩

/-- Otherwise the first thing that is wrong is told. -/
theorem ofSettings_eq_error_iff (halgorithm : jwt.algorithm = .rs256) {e : KeyError} :
    ofSettings files jwt = .error e ↔ RefusesKeys files jwt e := by
  constructor
  · intro hrefused
    rcases rs256_cases files jwt with ⟨reason, hpublic⟩ |
      ⟨publicText, hpublic, hnone | ⟨hgiven, reason, hprivate⟩ | ⟨privateText, hprivate⟩⟩
    · rw [ofSettings_of_noPublic halgorithm hpublic] at hrefused
      cases hrefused
      exact .noPublic hpublic
    · rw [ofSettings_of_noPrivate halgorithm hpublic hnone, rs256Verifier_eq_error_iff] at hrefused
      obtain ⟨hbad, rfl⟩ := hrefused
      exact .badPublic hpublic (.inl hnone) hbad
    · rw [ofSettings_of_unreadable halgorithm hpublic hgiven hprivate] at hrefused
      cases hrefused
      exact .noPrivate hpublic hgiven hprivate
    · rw [ofSettings_of_both halgorithm hpublic hprivate, rs256Pair_eq_error_iff] at hrefused
      rcases hrefused with ⟨hbad, rfl⟩ | ⟨signing, hsigning, hbad, rfl⟩
      · exact .badPrivate hpublic hprivate hbad
      · exact .badPublic hpublic (.inr ⟨signing, privateText, hprivate, hsigning⟩) hbad
  · intro hrefuses
    cases hrefuses with
    | noPublic hpublic => exact ofSettings_of_noPublic halgorithm hpublic
    | noPrivate hpublic hgiven hprivate =>
        exact ofSettings_of_unreadable halgorithm hpublic hgiven hprivate
    | badPrivate hpublic hprivate hbad =>
        rw [ofSettings_of_both halgorithm hpublic hprivate, rs256Pair_eq_error_iff]
        exact .inl ⟨hbad, rfl⟩
    | badPublic hpublic hprivate hbad =>
        rcases hprivate with hnone | ⟨key, privateText, hprivate, hkey⟩
        · rw [ofSettings_of_noPrivate halgorithm hpublic hnone, rs256Verifier_eq_error_iff]
          exact ⟨hbad, rfl⟩
        · rw [ofSettings_of_both halgorithm hpublic hprivate, rs256Pair_eq_error_iff]
          exact .inr ⟨key, hkey, hbad, rfl⟩

/-- A set that only verifies is what one gets where no private key was given, and nowhere else. -/
theorem exists_ofSettings_verifier_iff (halgorithm : jwt.algorithm = .rs256) :
    (∃ keys, ofSettings files jwt = .ok keys ∧ keys.canSign = false) ↔
      (∃ key, HoldsPublicKey files jwt key) ∧ NoPrivateKey jwt := by
  simp only [ofSettings_eq_ok_iff halgorithm]
  constructor
  · rintro ⟨keys, hselected, hverifies⟩
    cases hselected with
    | pair => cases hverifies
    | verifier hpublic hnone => exact ⟨⟨_, hpublic⟩, hnone⟩
  · rintro ⟨⟨key, hpublic⟩, hnone⟩
    exact ⟨.rs256 key none, .verifier hpublic hnone, rfl⟩

/-- A private key that was given and is not there stops everything. -/
theorem exists_ofSettings_eq_error (halgorithm : jwt.algorithm = .rs256) (hgiven : ¬NoPrivateKey jwt)
    (hunusable : ∀ key, ¬HoldsPrivateKey files jwt key) : ∃ e, ofSettings files jwt = .error e := by
  cases hkeys : ofSettings files jwt with
  | error e => exact ⟨e, rfl⟩
  | ok keys =>
      cases (ofSettings_eq_ok_iff halgorithm).1 hkeys with
      | pair _ hprivate => exact absurd hprivate (hunusable _)
      | verifier _ hnone => exact absurd hnone hgiven

theorem ofSettings_setSecret (halgorithm : jwt.algorithm = .rs256) (secret : String) :
    ofSettings files { jwt with secret } = ofSettings files jwt := by
  unfold ofSettings
  simp only [halgorithm]

theorem ofSettings_setKeys (halgorithm : jwt.algorithm = .hs256) (files otherFiles : FileSystem)
    (privateKey privateKeyPath publicKey publicKeyPath : Option String) :
    ofSettings otherFiles { jwt with privateKey, privateKeyPath, publicKey, publicKeyPath } =
      ofSettings files jwt := by
  unfold ofSettings
  simp only [halgorithm]

end Selection

/-- A set that only verifies makes no token. -/
theorem issueAt_ne_ok_of_not_canSign {keys : KeySet} (hverifies : keys.canSign = false)
    (expiryHours userId issuedAt : Int64) (username token : String) :
    Issuer.issueAt ⟨keys, expiryHours⟩ userId username issuedAt ≠ .ok token := by
  intro hissued
  obtain ⟨payload, -, hmade⟩ := bind_eq_ok_iff.1 hissued
  rw [show KeySet.tokenOf keys payload = _ from tokenOf_of_not_canSign hverifies payload] at hmade
  cases hmade

/-- Selecting keys never gives less than was asked for. Each key comes from what is written in place, then
from its file. With RS256 there are keys exactly when the public one is there and the private one is there
or was not given, and otherwise the first error is told; so a private key that was given and cannot be used
is always an error, and the secret plays no part. With HS256 no key and no file plays a part. A set that
only verifies makes no token. -/
theorem ofSettings_never_downgrades (files : FileSystem) (jwt : Jwt) :
    (∀ role written path found,
      loadPem files written path role = found ↔ Material files role written path found) ∧
    (jwt.algorithm = .rs256 →
      (∀ keys, ofSettings files jwt = .ok keys ↔ SelectsKeys files jwt keys) ∧
      (∀ e, ofSettings files jwt = .error e ↔ RefusesKeys files jwt e) ∧
      ((∃ keys, ofSettings files jwt = .ok keys ∧ keys.canSign = false) ↔
        (∃ key, HoldsPublicKey files jwt key) ∧ NoPrivateKey jwt) ∧
      (¬NoPrivateKey jwt → (∀ key, ¬HoldsPrivateKey files jwt key) →
        ∃ e, ofSettings files jwt = .error e) ∧
      ∀ secret, ofSettings files { jwt with secret } = ofSettings files jwt) ∧
    (jwt.algorithm = .hs256 → ∀ otherFiles privateKey privateKeyPath publicKey publicKeyPath,
      ofSettings otherFiles { jwt with privateKey, privateKeyPath, publicKey, publicKeyPath } =
        ofSettings files jwt) ∧
    ∀ keys : KeySet, keys.canSign = false →
      (∀ payload, keys.tokenOf payload = .error .signingKeyUnavailable) ∧
      ∀ expiryHours userId username issuedAt token,
        Issuer.issueAt ⟨keys, expiryHours⟩ userId username issuedAt ≠ .ok token := by
  refine ⟨fun role written path found => loadPem_eq_iff, fun halgorithm => ⟨?_, ?_, ?_, ?_, ?_⟩, ?_, ?_⟩
  · exact fun keys => ofSettings_eq_ok_iff halgorithm
  · exact fun e => ofSettings_eq_error_iff halgorithm
  · exact exists_ofSettings_verifier_iff halgorithm
  · exact exists_ofSettings_eq_error halgorithm
  · exact ofSettings_setSecret halgorithm
  · exact fun halgorithm => ofSettings_setKeys halgorithm files
  · intro keys hverifies
    refine ⟨tokenOf_of_not_canSign hverifies, ?_⟩
    intro expiryHours userId username issuedAt token
    exact issueAt_ne_ok_of_not_canSign hverifies expiryHours userId issuedAt username token

/-- A public key in place, with a path to nowhere beside it: with a blank private key the set only
verifies, with a path to nowhere for that one too there is none. -/
theorem ofSettings_never_downgrades_blank :
    ∃ jwt : Jwt, jwt.algorithm = .rs256 ∧ jwt.publicKeyPath = some "gone.pem" ∧
      (∃ keys, ofSettings (.ofReads []) jwt = .ok keys ∧ keys.canSign = false) ∧
      ofSettings (.ofReads []) { jwt with privateKeyPath := some "gone.pem" } =
        .error (.read .privateKey "gone.pem" .notFound) := by
  let text := " -----BEGIN RSA PUBLIC KEY-----MAMCAQU=-----END RSA PUBLIC KEY-----"
  let jwt : Jwt :=
    { algorithm := .rs256, privateKey := some " ", publicKey := some text,
      publicKeyPath := some "gone.pem" }
  have hpublic : Material (.ofReads []) .publicKey jwt.publicKey jwt.publicKeyPath
      (.ok (Text.trim text)) := .written rfl (by decide)
  have hkey : Pem.rsaKey? (Text.trim text) = some [0x30, 0x03, 0x02, 0x01, 0x05] := by decide +kernel
  have hblank : Unwritten jwt.privateKey := unwritten_iff.2 (by decide)
  refine ⟨jwt, rfl, rfl, ?_, ?_⟩
  · obtain ⟨-, hrs256, -⟩ := ofSettings_never_downgrades (.ofReads []) jwt
    obtain ⟨-, -, hverifier, -⟩ := hrs256 rfl
    exact hverifier.2 ⟨⟨_, _, hpublic, hkey⟩, hblank, rfl⟩
  · obtain ⟨-, hrs256, -⟩ := ofSettings_never_downgrades (.ofReads [])
      { jwt with privateKeyPath := some "gone.pem" }
    obtain ⟨-, hrefused, -⟩ := hrs256 rfl
    refine (hrefused _).2 (.noPrivate hpublic (fun hnone => ?_) (.unreadable hblank rfl rfl))
    cases hnone.2

end KeySet

end Gatehouse.Token
