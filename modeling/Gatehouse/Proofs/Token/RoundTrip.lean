import Gatehouse.Proofs.Crypto.Rsa
import Gatehouse.Proofs.Sequencing
import Gatehouse.Proofs.Token.Codec

/-!
# From issuing to verifying

Keys that fit accept what they sign. Whatever an issuer gives out, a verifier of the same settings takes
in, up to the last second of the window and with the claims as they were given; past the window it says
that the token has expired. The bounds of 64-bit words are out of sight there: an expiry after the epoch
and any leeway add up as whole numbers do.
-/

namespace Gatehouse.Token

open Config (Jwt)
open Crypto (Base64.decode?_encode Base64.dot_not_mem_encode)
open Crypto.Rsa (PrivateKey PublicKey)
open Files (FileSystem)

/-! ## Keys that fit -/

/-- Every text gets a signature that the keys accept. -/
def KeySet.Fits (keys : KeySet) : Prop :=
  ∀ text, ∃ signature, keys.sign text = .ok signature ∧ '.' ∉ signature ∧
    keys.check text signature = .ok ()

/-- Two encoded RSA keys of which the one verifies what the other signs, for every message. -/
def IsPair (verification signing : Bytes) : Prop :=
  ∃ publicKey privateKey, PublicKey.ofDer? verification = some publicKey ∧
    PrivateKey.ofDer? signing = some privateKey ∧
    ∀ message, ∃ signature, privateKey.sign? message = some signature ∧
      publicKey.verifies message signature = true

/-- The two keys that are made from two primes in the usual way are a pair. -/
theorem isPair_of_isSound {verification signing : Bytes} {key : PrivateKey}
    (hpublic : PublicKey.ofDer? verification = some key.toPublic)
    (hprivate : PrivateKey.ofDer? signing = some key) (hsound : key.IsSound) :
    IsPair verification signing := by
  have hsize := PrivateKey.le_byteLength_of_ofDer? hprivate
  refine ⟨key.toPublic, key, hpublic, hprivate, fun message => ?_⟩
  exact hsound.exists_sign?_eq_some (Nat.le_trans (by decide) hsize) message

theorem KeySet.fits_hs256 (secret : Bytes) : (KeySet.hs256 secret).Fits := by
  intro text
  exact ⟨_, rfl, Base64.dot_not_mem_encode _, if_pos rfl⟩

theorem KeySet.fits_rs256 {verification signing : Bytes} (hpair : IsPair verification signing) :
    (KeySet.rs256 verification (some signing)).Fits := by
  obtain ⟨publicKey, privateKey, hpublic, hprivate, hsigns⟩ := hpair
  intro text
  obtain ⟨signature, hsign, hverifies⟩ := hsigns (Text.utf8 (String.ofList text))
  refine ⟨Crypto.Base64.encode Crypto.Base64.urlSafe signature, ?_, Base64.dot_not_mem_encode _, ?_⟩
  · simp only [KeySet.sign, hprivate, Option.bind_some, hsign]
  · simp only [KeySet.check, Base64.decode?_encode, hpublic, hverifies]
    rfl

/-- The settings give a secret that is not blank, or a pair of RSA keys. -/
def HasKeys (files : FileSystem) (jwt : Jwt) : Prop :=
  match jwt.algorithm with
  | .hs256 => Text.blank jwt.secret = false
  | .rs256 => ∃ verification signing,
      KeySet.ofSettings files jwt = .ok (.rs256 verification (some signing)) ∧
        IsPair verification signing

theorem HasKeys.exists_fits {files : FileSystem} {jwt : Jwt} (hkeys : HasKeys files jwt) :
    ∃ keys, KeySet.ofSettings files jwt = .ok keys ∧ keys.Fits := by
  unfold HasKeys at hkeys
  cases halgorithm : jwt.algorithm with
  | hs256 =>
      rw [halgorithm] at hkeys
      refine ⟨_, ?_, KeySet.fits_hs256 (Text.utf8 jwt.secret)⟩
      simp only [KeySet.ofSettings, halgorithm]
      rw [if_neg (by simp [hkeys])]
  | rs256 =>
      rw [halgorithm] at hkeys
      obtain ⟨verification, signing, hfound, hpair⟩ := hkeys
      exact ⟨_, hfound, KeySet.fits_rs256 hpair⟩

/-! ## Signed payloads -/

/-- A verifier of the same keys finds the payload of a token with a signature that they accept. -/
theorem Verifier.signedPayload_ofList {keys : KeySet} {payload : Payload} {signature : List Char}
    (hdot : '.' ∉ signature)
    (hcheck : keys.check (signedText keys.algorithm payload) signature = .ok ()) (leeway : UInt64) :
    Verifier.signedPayload { Verifier.ofKeys keys with leeway }
        (String.ofList (signedText keys.algorithm payload ++ '.' :: signature)) =
      .ok (encodePart payload.text) := by
  have hopen : Verifier.isOpen { Verifier.ofKeys keys with leeway } = true := by
    simp [Verifier.isOpen, Verifier.ofKeys]
  have hallowed : (Verifier.ofKeys keys).allowed.any (fun a => a.name = keys.algorithm.name) =
      true := by
    simp [Verifier.ofKeys]
  have hparts := Parts.ofToken?_ofList (encodePart (Header.issued keys.algorithm).compact)
    (dot_not_mem_encodePart payload.text) hdot
  have hread : (Header.read (Text.utf8 (Header.issued keys.algorithm).compact)).mapError
      TokenError.claims = .ok ⟨keys.algorithm.name⟩ := by
    rw [Header.read_issued]
    rfl
  rw [signedText] at hcheck ⊢
  rw [Verifier.signedPayload, hopen, hparts]
  refine bind_eq_ok_iff.2 ⟨_, decodePart_encodePart _, bind_eq_ok_iff.2 ⟨_, hread, ?_⟩⟩
  dsimp only
  rw [if_pos hallowed]
  exact bind_eq_ok_iff.2 ⟨(), hcheck, rfl⟩

/-- The claims of such a token are those of its payload. -/
theorem Verifier.claims_ofList {keys : KeySet} {payload : Payload} {signature : List Char}
    (hextra : payload.extra = []) (hexp : 0 ≤ payload.exp) (hdot : '.' ∉ signature)
    (hcheck : keys.check (signedText keys.algorithm payload) signature = .ok ()) (leeway : UInt64) :
    Verifier.claims { Verifier.ofKeys keys with leeway }
        (String.ofList (signedText keys.algorithm payload ++ '.' :: signature)) =
      .ok payload := by
  have hpart := Verifier.signedPayload_ofList hdot hcheck leeway
  have hread : readText readClaims (Text.utf8 payload.text) = .ok payload := by
    rw [readText_utf8, readClaims_text hextra hexp]
    rfl
  exact bind_eq_ok_iff.2 ⟨_, hpart, bind_eq_ok_iff.2 ⟨_, decodePart_encodePart _, hread⟩⟩

/-! ## The window -/

/-- An expiry after the epoch is judged as if words had no bounds. -/
theorem Payload.isExpiredAt_iff {payload : Payload} (hexp : 0 ≤ payload.exp) (now : Int64)
    (leeway : UInt64) :
    payload.isExpiredAt now leeway = true ↔ payload.exp.toInt + leeway.toNat < now.toInt := by
  have hepoch : 0 ≤ payload.exp.toInt := Int64.le_iff_toInt_le.1 hexp
  have hbound := payload.exp.toInt_lt
  have hnow := now.toInt_lt
  rw [Payload.isExpiredAt, decide_eq_true_eq, saturate, saturate, Int64.toInt_minValue,
    Int64.toInt_maxValue]
  omega

/-- A token is accepted inside its window, and past it said to have expired. -/
theorem Verifier.verifyAt_ofList {keys : KeySet} {payload : Payload} {signature : List Char}
    (hextra : payload.extra = []) (hexp : 0 ≤ payload.exp)
    (hidentity : payload.identityProblem? = none) (hdot : '.' ∉ signature)
    (hcheck : keys.check (signedText keys.algorithm payload) signature = .ok ()) (now : Int64)
    (leeway : UInt64) :
    Verifier.verifyAt { Verifier.ofKeys keys with leeway }
        (String.ofList (signedText keys.algorithm payload ++ '.' :: signature)) now =
      if now.toInt ≤ payload.exp.toInt + leeway.toNat then .ok payload else .error .expired := by
  have hwindow := Payload.isExpiredAt_iff hexp now leeway
  rw [Verifier.verifyAt, Verifier.claims_ofList hextra hexp hdot hcheck, ok_bind]
  cases hexpired : payload.isExpiredAt now leeway with
  | true =>
      have hlate : ¬now.toInt ≤ payload.exp.toInt + leeway.toNat :=
        Int.not_le.2 (hwindow.1 hexpired)
      rw [if_neg hlate]
      rfl
  | false =>
      have hearly : now.toInt ≤ payload.exp.toInt + leeway.toNat := by
        refine Int.not_lt.1 fun hlate => ?_
        rw [hwindow.2 hlate] at hexpired
        cases hexpired
      rw [if_pos hearly, hidentity]
      rfl

/-! ## Issued tokens -/

/-- What is asked for within its bounds makes a payload. -/
theorem Issuer.payloadAt_eq (issuer : Issuer) {userId : Int64} {username : String}
    {issuedAt exp : Int64} (huser : 0 < userId) (hname : Text.blank username = false)
    (hhours : 0 < issuer.expiryHours)
    (hlifetime : issuer.expiryHours.toInt * 3600 ≤ Int64.maxValue.toInt)
    (hexp : exp.toInt = issuedAt.toInt + issuer.expiryHours.toInt * 3600) :
    issuer.payloadAt userId username issuedAt =
      .ok { userId, username, iat := issuedAt, exp } := by
  have hpositive : 0 < issuer.expiryHours.toInt := Int64.lt_iff_toInt_lt.1 hhours
  obtain ⟨lifetime, hword⟩ : ∃ lifetime : Int64, lifetime.toInt = issuer.expiryHours.toInt * 3600 :=
    ⟨Int64.ofInt _, Int64.toInt_ofInt_of_le (by omega) (Int.lt_of_le_sub_one hlifetime)⟩
  have hlifetime : lifetime? issuer.expiryHours = some lifetime := by
    have hlong : 0 < lifetime := by
      rw [Int64.lt_iff_toInt_lt, Int64.toInt_zero, hword]
      omega
    rw [lifetime?, secondsPerHour, Number.toInt64?_eq_some_iff.2 hword, Option.filter_some,
      if_pos (decide_eq_true hlong)]
  have hcreated : Payload.create? userId username issuedAt lifetime =
      some { userId, username, iat := issuedAt, exp } := by
    rw [Payload.create?, hword, ← hexp, Number.toInt64?_toInt]
    rfl
  rw [Issuer.payloadAt, if_neg (Int64.not_le.2 huser), hname, hlifetime]
  dsimp only
  rw [hcreated]
  rfl

/-- An issuer and a verifier of the same settings: whoever has a number above zero and a name that is not
blank gets a token, and at any time and with any leeway the verifier gives back exactly what was issued
until the window is over, and says that the token has expired from then on. -/
theorem Issuer.verifyAt_issueAt {files : FileSystem} {jwt : Jwt} (hkeys : HasKeys files jwt)
    {userId : Int64} {username : String} {issuedAt exp : Int64} (huser : 0 < userId)
    (hname : Text.blank username = false) (hhours : 0 < jwt.expiryHours)
    (hlifetime : jwt.expiryHours.toInt * 3600 ≤ Int64.maxValue.toInt)
    (hexp : exp.toInt = issuedAt.toInt + jwt.expiryHours.toInt * 3600) (hepoch : 0 ≤ exp) :
    ∃ issuer verifier token, Issuer.ofSettings files jwt = .ok issuer ∧
      Verifier.ofSettings files jwt = .ok verifier ∧
      issuer.issueAt userId username issuedAt = .ok token ∧
      ∀ (now : Int64) (leeway : UInt64),
        Verifier.verifyAt { verifier with leeway } token now =
          if now.toInt ≤ exp.toInt + leeway.toNat then
            .ok { userId, username, iat := issuedAt, exp, extra := [] }
          else .error .expired := by
  obtain ⟨keys, hfound, hfits⟩ := hkeys.exists_fits
  have hpayload := Issuer.payloadAt_eq ⟨keys, jwt.expiryHours⟩ huser hname hhours hlifetime hexp
  obtain ⟨signature, hsign, hdot, hcheck⟩ :=
    hfits (signedText keys.algorithm { userId, username, iat := issuedAt, exp })
  have hidentity : Payload.identityProblem? { userId, username, iat := issuedAt, exp } = none := by
    rw [Payload.identityProblem?, if_neg (Int64.not_le.2 huser), hname]
    rfl
  refine ⟨⟨keys, jwt.expiryHours⟩, { Verifier.ofKeys keys with leeway := jwt.leewaySecs },
    String.ofList (signedText keys.algorithm { userId, username, iat := issuedAt, exp } ++
      '.' :: signature), ?_, ?_, ?_, ?_⟩
  · rw [Issuer.ofSettings, hfound]
    rfl
  · rw [Verifier.ofSettings, hfound]
    rfl
  · rw [Issuer.issueAt, hpayload]
    change KeySet.tokenOf keys _ = _
    rw [KeySet.tokenOf, hsign]
    rfl
  · intro now leeway
    exact Verifier.verifyAt_ofList rfl hepoch hidentity hdot hcheck now leeway

/-- A token for an hour that was issued under a secret, in its last second and one second later. -/
theorem Issuer.verifyAt_issueAt_hour :
    ∃ issuer verifier token,
      Issuer.ofSettings (.ofReads []) { secret := "secret", expiryHours := 1 } = .ok issuer ∧
      Verifier.ofSettings (.ofReads []) { secret := "secret", expiryHours := 1 } = .ok verifier ∧
      issuer.issueAt 7 "Zoë \"Z\"" 1000 = .ok token ∧
      Verifier.verifyAt { verifier with leeway := 30 } token 4630 =
        .ok { userId := 7, username := "Zoë \"Z\"", iat := 1000, exp := 4600, extra := [] } ∧
      Verifier.verifyAt { verifier with leeway := 30 } token 4631 = .error .expired := by
  have hkeys : HasKeys (.ofReads []) { secret := "secret", expiryHours := 1 } := by
    change Text.blank "secret" = false
    decide
  obtain ⟨issuer, verifier, token, hissuer, hverifier, hissued, hverified⟩ :=
    @Issuer.verifyAt_issueAt _ _ hkeys 7 "Zoë \"Z\"" 1000 4600 (by decide) (by decide) (by decide)
      (by decide) (by decide) (by decide)
  refine ⟨issuer, verifier, token, hissuer, hverifier, hissued, ?_, ?_⟩
  · exact hverified 4630 30
  · exact hverified 4631 30

end Gatehouse.Token
