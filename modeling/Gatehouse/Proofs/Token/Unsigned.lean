import Gatehouse.Proofs.Crypto.Rsa
import Gatehouse.Proofs.Token.Acceptance

/-!
# Tokens without a valid signature

A verifier of any algorithms refuses a token whose signature is not valid for a reason that it finds in
its own list, the header and the signature. Nothing that a payload holds, and no clock, has a part in
it.
-/

namespace Gatehouse.Token

open Crypto (Base64.decode? Base64.encode Base64.urlSafe Base64.decode?_encode)

/-! ## Signatures -/

/-- A signature is valid for a text: it is written in base 64, and the keys accept it. -/
def KeySet.Validates (keys : KeySet) (text signature : List Char) : Prop :=
  ∃ bytes, signature = Base64.encode Base64.urlSafe bytes ∧
    keys.Accepts (Text.utf8 (String.ofList text)) bytes

/-- Why keys refuse a signature that is not valid. Only an RSA signature is decoded before it is
looked at. -/
def KeySet.refusal : KeySet → List Char → TokenError
  | .hs256 _, _ => .signature
  | .rs256 .., signature =>
    match Base64.decode? Base64.urlSafe signature with
    | none => .malformed
    | some _ => .signature

/-- Whatever the text, a signature passes or is refused for the same reason. -/
theorem KeySet.check_cases (keys : KeySet) (text signature : List Char) :
    keys.check text signature = .ok () ∨
      keys.check text signature = .error (keys.refusal signature) := by
  unfold KeySet.check KeySet.refusal
  cases keys with
  | hs256 secret =>
      dsimp only
      split
      · exact .inl rfl
      · exact .inr rfl
  | rs256 key signing =>
      dsimp only
      cases Base64.decode? Base64.urlSafe signature with
      | none => exact .inr rfl
      | some bytes =>
          cases Crypto.Rsa.PublicKey.ofDer? key with
          | none => exact .inr rfl
          | some publicKey =>
              dsimp only
              split
              · exact .inl rfl
              · exact .inr rfl

theorem KeySet.check_of_not_validates {keys : KeySet} {text signature : List Char}
    (hinvalid : ¬keys.Validates text signature) :
    keys.check text signature = .error (keys.refusal signature) :=
  (keys.check_cases text signature).resolve_left fun hpasses =>
    hinvalid (KeySet.check_eq_ok_iff.1 hpasses)

/-! ## Reasons to refuse -/

/-- A reason that no expiry and no identity gives. -/
def TokenError.BeforeClaims (reason : TokenError) : Prop :=
  reason ≠ .expired ∧ ∀ problem, reason ≠ .invalidClaim problem

theorem KeySet.beforeClaims_refusal (keys : KeySet) (signature : List Char) :
    (keys.refusal signature).BeforeClaims := by
  unfold KeySet.refusal
  split
  · exact ⟨nofun, nofun⟩
  · split <;> exact ⟨nofun, nofun⟩

/-- A part that cannot be decoded or read is refused for that. -/
theorem beforeClaims_of_decodePart_bind_mapError {α : Type} {read : Bytes → Except ClaimProblem α}
    {part : List Char} {reason : TokenError}
    (hfails : (decodePart part >>= fun bytes => (read bytes).mapError .claims) = .error reason) :
    reason.BeforeClaims := by
  rcases bind_eq_error_iff.1 hfails with hdecode | ⟨bytes, -, hread⟩
  · unfold decodePart at hdecode
    split at hdecode
    · cases hdecode
    · cases hdecode
      exact ⟨nofun, nofun⟩
  · cases hproblem : read bytes with
    | ok a =>
        rw [hproblem] at hread
        cases hread
    | error problem =>
        rw [hproblem] at hread
        cases hread
        exact ⟨nofun, nofun⟩

/-! ## Refused tokens -/

/-- The token made of parts. -/
def Parts.token (parts : Parts) : String := String.ofList (parts.signed ++ '.' :: parts.signature)

/-- The payload and the signature have no dot in them, so that a token falls into these parts again. -/
structure Parts.DotFree (parts : Parts) : Prop where
  payload : '.' ∉ parts.payload
  signature : '.' ∉ parts.signature

theorem Parts.DotFree.ofToken?_token {parts : Parts} (hdots : parts.DotFree) :
    Parts.ofToken? parts.token = some parts :=
  Parts.ofToken?_ofList parts.header hdots.payload hdots.signature

namespace Verifier

/-- What is read of the bytes of a header. -/
def readHeader (bytes : Bytes) : Except TokenError Header := (Header.read bytes).mapError .claims

/-- Why a verifier refuses a token with this header and a signature that is not valid. -/
def refusal (verifier : Verifier) (header signature : List Char) : TokenError :=
  if verifier.isOpen then
    match decodePart header >>= readHeader with
    | .error reason => reason
    | .ok named =>
      if verifier.allowed.any fun a => a.name = named.algorithm then verifier.keys.refusal signature
      else .algorithm
  else .algorithm

theorem beforeClaims_refusal (verifier : Verifier) (header signature : List Char) :
    (verifier.refusal header signature).BeforeClaims := by
  unfold refusal
  split
  · split
    · next reason hfails => exact beforeClaims_of_decodePart_bind_mapError hfails
    · split
      · exact verifier.keys.beforeClaims_refusal signature
      · exact ⟨nofun, nofun⟩
  · exact ⟨nofun, nofun⟩

variable {verifier : Verifier} {parts : Parts}

/-- The payload of a token is not handed out before its signature is known to be valid. -/
theorem signedPayload_of_not_validates (hdots : parts.DotFree)
    (hinvalid : ¬verifier.keys.Validates parts.signed parts.signature) :
    verifier.signedPayload parts.token = .error (verifier.refusal parts.header parts.signature) := by
  have hassoc (f : Header → Except TokenError (List Char)) :
      (decodePart parts.header >>= fun bytes => (Header.read bytes).mapError .claims >>= f) =
        ((decodePart parts.header >>= readHeader) >>= f) := by
    cases decodePart parts.header <;> rfl
  unfold signedPayload refusal
  cases hopen : verifier.isOpen with
  | false => rfl
  | true =>
      rw [hdots.ofToken?_token]
      dsimp only
      rw [if_neg (by decide), if_pos rfl, hassoc]
      cases decodePart parts.header >>= readHeader with
      | error reason => rfl
      | ok named =>
          rw [ok_bind]
          dsimp only
          split
          · rw [KeySet.check_of_not_validates hinvalid]
            rfl
          · rfl

theorem verifyAt_of_not_validates (hdots : parts.DotFree)
    (hinvalid : ¬verifier.keys.Validates parts.signed parts.signature) (now : Int64) :
    verifier.verifyAt parts.token now = .error (verifier.refusal parts.header parts.signature) :=
  verifyAt_of_signedPayload (signedPayload_of_not_validates hdots hinvalid) now

/-- Two tokens that differ in their payloads, neither of them with a valid signature, are refused for one
reason at any two times, by a verifier of any keys, algorithms and leeway; and the reason is never that a
token has expired or names nobody. -/
theorem verifyAt_unsigned (verifier : Verifier) (header signature payload payload' : List Char)
    (now now' : Int64) (hsignature : '.' ∉ signature) (hpayload : '.' ∉ payload)
    (hpayload' : '.' ∉ payload')
    (hinvalid : ¬verifier.keys.Validates (header ++ '.' :: payload) signature)
    (hinvalid' : ¬verifier.keys.Validates (header ++ '.' :: payload') signature) :
    ∃ reason,
      verifier.verifyAt (Parts.token ⟨header, payload, signature⟩) now = .error reason ∧
      verifier.verifyAt (Parts.token ⟨header, payload', signature⟩) now' = .error reason ∧
      reason ≠ .expired ∧ ∀ problem, reason ≠ .invalidClaim problem :=
  ⟨verifier.refusal header signature,
    verifyAt_of_not_validates ⟨hpayload, hsignature⟩ hinvalid now,
    verifyAt_of_not_validates ⟨hpayload', hsignature⟩ hinvalid' now',
    beforeClaims_refusal verifier header signature⟩

/-- An empty signature under a secret, behind a payload that has long expired and one that is no
base 64. -/
theorem verifyAt_unsigned_empty :
    let verifier := ofKeys (.hs256 (Text.utf8 "secret"))
    let header := encodePart (Header.issued .hs256).compact
    let expired := encodePart (Payload.text ⟨7, "Zoë", 0, 1, []⟩)
    (¬verifier.keys.Validates (header ++ '.' :: expired) []) ∧
      (¬verifier.keys.Validates (header ++ '.' :: ['!']) []) ∧
      ∃ reason,
        verifier.verifyAt (Parts.token ⟨header, expired, []⟩) 1000 = .error reason ∧
        verifier.verifyAt (Parts.token ⟨header, ['!'], []⟩) 0 = .error reason ∧
        reason ≠ .expired ∧ ∀ problem, reason ≠ .invalidClaim problem := by
  intro verifier header expired
  have hinvalid (text : List Char) : ¬verifier.keys.Validates text [] := by
    rintro ⟨bytes, hwritten, haccepted⟩
    have hdecoded := Base64.decode?_encode bytes
    rw [← hwritten] at hdecoded
    cases hdecoded
    have hlength := congrArg List.length haccepted
    rw [Crypto.hmac, Crypto.Sha256.length_digest] at hlength
    cases hlength
  exact ⟨hinvalid _, hinvalid _, verifyAt_unsigned verifier header [] expired ['!'] 1000 0 nofun
    (dot_not_mem_encodePart _) (by decide) (hinvalid _) (hinvalid _)⟩

end Verifier

end Gatehouse.Token
