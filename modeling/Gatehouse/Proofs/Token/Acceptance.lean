import Gatehouse.Proofs.Token.Claims
import Gatehouse.Proofs.Token.Headers
import Gatehouse.Proofs.Token.RoundTrip

/-!
# Which tokens are accepted

A verifier of the algorithm of its keys accepts a token exactly when it is three encoded parts with dots
between them, the header names that algorithm, the keys accept the signature, the payload says what is
given back, and the window and the identity are as they should be. What is wrong with a signed payload
is told in the order of the window, the number and the name.
-/

namespace Gatehouse.Token

open Crypto (Base64.decode? Base64.encode Base64.urlSafe Base64.decode?_encode
  Base64.dot_not_mem_encode Base64.encode_of_decode?)

/-! ## Three parts -/

theorem splitLast?_eq_none_iff {c : Char} {cs : List Char} : splitLast? c cs = none ↔ c ∉ cs := by
  induction cs with
  | nil => simp [splitLast?]
  | cons a cs ih =>
      rw [splitLast?]
      cases hrest : splitLast? c cs with
      | none =>
          have habsent := ih.1 hrest
          by_cases hsame : a = c
          · simp [hsame]
          · simp [hsame, habsent, Ne.symm hsame]
      | some found =>
          have hmem : c ∈ cs := by
            refine Classical.not_not.1 fun habsent => ?_
            rw [ih.2 habsent] at hrest
            cases hrest
          simp [hmem]

theorem splitLast?_eq_some_iff {c : Char} {cs before after : List Char} :
    splitLast? c cs = some (before, after) ↔ cs = before ++ c :: after ∧ c ∉ after := by
  constructor
  · intro hsplit
    induction cs generalizing before with
    | nil => cases hsplit
    | cons a cs ih =>
        rw [splitLast?] at hsplit
        split at hsplit
        · next front back hrest =>
            cases hsplit
            obtain ⟨hcs, hafter⟩ := ih hrest
            exact ⟨congrArg (a :: ·) hcs, hafter⟩
        · next hnone =>
            obtain ⟨hsame, hends⟩ := Option.ite_none_right_eq_some.1 hsplit
            cases hends
            exact ⟨by rw [hsame]; rfl, splitLast?_eq_none_iff.1 hnone⟩
  · rintro ⟨rfl, hafter⟩
    exact splitLast?_append hafter before

/-- A token falls into the parts that it is made of, as long as the last two have no dot in them. -/
theorem Parts.ofToken?_eq_some_iff {token : String} {parts : Parts} :
    Parts.ofToken? token = some parts ↔
      token = String.ofList (parts.signed ++ '.' :: parts.signature) ∧ '.' ∉ parts.payload ∧
        '.' ∉ parts.signature := by
  constructor
  · intro hparts
    obtain ⟨⟨signed, signature⟩, houter, hparts⟩ := Option.bind_eq_some_iff.1 hparts
    obtain ⟨⟨header, payload⟩, hinner, hparts⟩ := Option.bind_eq_some_iff.1 hparts
    cases hparts
    obtain ⟨htoken, hsignature⟩ := splitLast?_eq_some_iff.1 houter
    obtain ⟨hsigned, hpayload⟩ := splitLast?_eq_some_iff.1 hinner
    refine ⟨?_, hpayload, hsignature⟩
    rw [Parts.signed, ← hsigned, ← htoken, String.ofList_toList]
  · rintro ⟨rfl, hpayload, hsignature⟩
    exact Parts.ofToken?_ofList parts.header hpayload hsignature

theorem decodePart_eq_ok_iff {part : List Char} {bytes : Bytes} :
    decodePart part = .ok bytes ↔ part = Base64.encode Base64.urlSafe bytes := by
  unfold decodePart
  constructor
  · intro hdecoded
    split at hdecoded
    · next found hfound =>
        cases hdecoded
        exact (Base64.encode_of_decode? hfound).symm
    · cases hdecoded
  · rintro rfl
    rw [Base64.decode?_encode]

theorem readText_eq_ok_iff {α : Type} {read : String → Except ClaimProblem α} {bytes : Bytes}
    {a : α} : readText read bytes = .ok a ↔ ∃ text, bytes = Text.utf8 text ∧ read text = .ok a := by
  constructor
  · intro hread
    unfold readText at hread
    split at hread
    · next text htext =>
        exact ⟨text, Text.splitText_eq_nil_iff.1 htext, mapError_eq_ok_iff.1 hread⟩
    · split at hread <;> cases hread
  · rintro ⟨text, rfl, hread⟩
    rw [readText_utf8]
    exact mapError_eq_ok_iff.2 hread

/-- A part that is decoded and read is a text that was encoded. -/
theorem decodePart_bind_readText_eq_ok_iff {α : Type} {read : String → Except ClaimProblem α}
    {part : List Char} {a : α} :
    (decodePart part >>= readText read) = .ok a ↔
      ∃ text, part = encodePart text ∧ read text = .ok a := by
  simp only [bind_eq_ok_iff, decodePart_eq_ok_iff, readText_eq_ok_iff]
  constructor
  · rintro ⟨bytes, rfl, text, rfl, hread⟩
    exact ⟨text, rfl, hread⟩
  · rintro ⟨text, rfl, hread⟩
    exact ⟨_, rfl, text, rfl, hread⟩

/-- The first part of a token is all that stands before its first dot. -/
theorem eq_of_encode_append {a b : Bytes} {rest rest' : List Char}
    (heq : Base64.encode Base64.urlSafe a ++ '.' :: rest =
      Base64.encode Base64.urlSafe b ++ '.' :: rest') : a = b := by
  have hbefore : ∀ (bytes : Bytes) (behind : List Char),
      (Base64.encode Base64.urlSafe bytes ++ '.' :: behind).takeWhile (· ≠ '.') =
        Base64.encode Base64.urlSafe bytes := by
    intro bytes behind
    have hnone : ∀ c ∈ Base64.encode Base64.urlSafe bytes, decide (c ≠ '.') = true := by
      intro c hc
      refine decide_eq_true ?_
      rintro rfl
      exact Base64.dot_not_mem_encode bytes hc
    rw [List.takeWhile_append_of_pos hnone, List.takeWhile_cons_of_neg (by decide), List.append_nil]
  have hsame : Base64.encode Base64.urlSafe a = Base64.encode Base64.urlSafe b := by
    rw [← hbefore a rest, heq, hbefore]
  refine Option.some.inj ?_
  rw [← Base64.decode?_encode a, hsame, Base64.decode?_encode]

/-! ## The signature -/

/-- The keys accept bytes as the signature of a message: they are its code under the secret, or what the
RSA key verifies. -/
def KeySet.Accepts (keys : KeySet) (message signature : Bytes) : Prop :=
  match keys with
  | .hs256 secret => signature = Crypto.hmac secret message
  | .rs256 key _ => ∃ publicKey, Crypto.Rsa.PublicKey.ofDer? key = some publicKey ∧
      publicKey.verifies message signature = true

/-- A signature passes the check when it is written in base 64 and accepted. -/
theorem KeySet.check_eq_ok_iff {keys : KeySet} {text signature : List Char} :
    keys.check text signature = .ok () ↔
      ∃ bytes, signature = Base64.encode Base64.urlSafe bytes ∧
        keys.Accepts (Text.utf8 (String.ofList text)) bytes := by
  cases keys with
  | hs256 secret =>
      simp only [KeySet.check, KeySet.Accepts, exists_eq_right]
      rw [ite_eq_ok_iff, and_iff_left rfl]
  | rs256 key signing =>
      simp only [KeySet.check, KeySet.Accepts]
      constructor
      · intro hcheck
        split at hcheck
        · cases hcheck
        · next bytes hbytes =>
            split at hcheck
            · cases hcheck
            · next publicKey hkey =>
                obtain ⟨hverifies, -⟩ := ite_eq_ok_iff.1 hcheck
                exact ⟨bytes, (Base64.encode_of_decode? hbytes).symm, publicKey, hkey, hverifies⟩
      · rintro ⟨bytes, rfl, publicKey, hkey, hverifies⟩
        rw [Base64.decode?_encode]
        dsimp only
        rw [hkey]
        exact if_pos hverifies

/-! ## Signed tokens -/

/-- A token is a header that names the algorithm of the keys, a payload, and a signature of both that the
keys accept, each in base 64 and with dots between them. -/
structure KeySet.Signed (keys : KeySet) (token : String) (header : Bytes) (payload : String)
    (signature : Bytes) : Prop where
  parts : token = String.ofList
    ((Base64.encode Base64.urlSafe header ++ '.' :: encodePart payload) ++
      '.' :: Base64.encode Base64.urlSafe signature)
  names : ∃ members, Header.HasMembers header members ∧ Header.Names members keys.algorithm.name
  accepted : keys.Accepts
    (Text.utf8 (String.ofList
      (Base64.encode Base64.urlSafe header ++ '.' :: encodePart payload))) signature

/-- A token carries an object: it is signed, and the object is its payload. -/
def KeySet.Carries (keys : KeySet) (token : String) (members : List (String × Json)) : Prop :=
  ∃ header payload signature, keys.Signed token header payload signature ∧
    Json.parse? payload = some (.obj members)

namespace Verifier

/-- The names that a verifier of the algorithm of its keys allows. -/
theorem allowed_ofKeys (keys : KeySet) (name : String) :
    (ofKeys keys).allowed.any (fun a => a.name = name) = true ↔ name = keys.algorithm.name := by
  simp [ofKeys, eq_comm]

/-- The part that holds the payload is found behind a header that names the algorithm, in front of a
signature that the keys accept. -/
theorem signedPayload_eq_ok_iff {keys : KeySet} {leeway : UInt64} {token : String}
    {part : List Char} :
    signedPayload { ofKeys keys with leeway } token = .ok part ↔
      ∃ header signature, '.' ∉ part ∧
        token = String.ofList ((Base64.encode Base64.urlSafe header ++ '.' :: part) ++
          '.' :: Base64.encode Base64.urlSafe signature) ∧
        Header.read header = .ok ⟨keys.algorithm.name⟩ ∧
        keys.Accepts (Text.utf8 (String.ofList
          (Base64.encode Base64.urlSafe header ++ '.' :: part))) signature := by
  have hopen : isOpen { ofKeys keys with leeway } = true := by
    simp [isOpen, ofKeys]
  unfold signedPayload
  rw [hopen]
  constructor
  · intro hpart
    cases hparts : Parts.ofToken? token with
    | none =>
        rw [hparts] at hpart
        cases hpart
    | some parts =>
        rw [hparts] at hpart
        obtain ⟨header, hbytes, hpart⟩ := bind_eq_ok_iff.1 hpart
        obtain ⟨⟨name⟩, hheader, hpart⟩ := bind_eq_ok_iff.1 hpart
        have hread := mapError_eq_ok_iff.1 hheader
        split at hpart
        · next hallowed =>
            obtain ⟨⟨⟩, hcheck, hpart⟩ := bind_eq_ok_iff.1 hpart
            cases hpart
            obtain ⟨signature, hsignature, haccepted⟩ := KeySet.check_eq_ok_iff.1 hcheck
            obtain ⟨htoken, hpayload, -⟩ := Parts.ofToken?_eq_some_iff.1 hparts
            rw [Parts.signed, decodePart_eq_ok_iff.1 hbytes] at htoken haccepted
            rw [hsignature] at htoken
            rw [(allowed_ofKeys keys name).1 hallowed] at hread
            exact ⟨header, signature, hpayload, htoken, hread, haccepted⟩
        · cases hpart
  · rintro ⟨header, signature, hpayload, rfl, hread, haccepted⟩
    rw [Parts.ofToken?_ofList _ hpayload (Base64.dot_not_mem_encode signature)]
    have hheader : (Header.read header).mapError TokenError.claims = .ok ⟨keys.algorithm.name⟩ :=
      mapError_eq_ok_iff.2 hread
    refine bind_eq_ok_iff.2 ⟨_, decodePart_eq_ok_iff.2 rfl, bind_eq_ok_iff.2 ⟨_, hheader, ?_⟩⟩
    dsimp only
    rw [if_pos ((allowed_ofKeys keys _).2 rfl)]
    exact bind_eq_ok_iff.2 ⟨(), KeySet.check_eq_ok_iff.2 ⟨signature, rfl, haccepted⟩, rfl⟩

/-- The claims of a token are what the object says that it carries. -/
theorem claims_eq_ok_iff {keys : KeySet} {leeway : UInt64} {token : String} {payload : Payload} :
    claims { ofKeys keys with leeway } token = .ok payload ↔
      ∃ members, keys.Carries token members ∧ payload.IsOf members ∧ RegisteredReadable members ∧
        0 ≤ payload.exp := by
  rw [claims, bind_eq_ok_iff]
  simp only [signedPayload_eq_ok_iff, decodePart_bind_readText_eq_ok_iff, readClaims_eq_ok_iff]
  constructor
  · rintro ⟨part, ⟨header, signature, -, htoken, hnames, haccepted⟩, text, rfl, members, hobject, hrest⟩
    exact ⟨members, ⟨header, text, signature, ⟨htoken, Header.read_eq_ok_iff.1 hnames, haccepted⟩,
      hobject⟩, hrest⟩
  · rintro ⟨members, ⟨header, text, signature, ⟨htoken, hnames, haccepted⟩, hobject⟩, hrest⟩
    exact ⟨_, ⟨header, signature, dot_not_mem_encodePart text, htoken, Header.read_eq_ok_iff.2 hnames,
      haccepted⟩, text, rfl, members, hobject, hrest⟩

/-- Without a signed payload there are no claims to look at. -/
theorem verifyAt_of_signedPayload {verifier : Verifier} {token : String} {reason : TokenError}
    (hrefused : verifier.signedPayload token = .error reason) (now : Int64) :
    verifier.verifyAt token now = .error reason := by
  rw [verifyAt, claims, hrefused]
  rfl

/-- What becomes of the claims of a token that expires after the epoch: the window is looked at first,
then the number and then the name. -/
theorem verifyAt_of_claims {keys : KeySet} {leeway : UInt64} {token : String} {payload : Payload}
    (hclaims : claims { ofKeys keys with leeway } token = .ok payload) (hexp : 0 ≤ payload.exp)
    (now : Int64) :
    verifyAt { ofKeys keys with leeway } token now =
      if payload.exp.toInt + leeway.toNat < now.toInt then .error .expired
      else if payload.userId ≤ 0 then .error (.invalidClaim .userId)
      else if Text.blank payload.username then .error (.invalidClaim .username)
      else .ok payload := by
  have hwindow := Payload.isExpiredAt_iff hexp now leeway
  rw [verifyAt, hclaims, ok_bind]
  by_cases hlate : payload.exp.toInt + leeway.toNat < now.toInt
  · rw [hwindow.2 hlate, if_pos hlate]
    rfl
  · have hearly : payload.isExpiredAt now leeway = false :=
      Bool.eq_false_iff.2 fun hexpired => hlate (hwindow.1 hexpired)
    rw [hearly, if_neg hlate, Payload.identityProblem?]
    by_cases huser : payload.userId ≤ 0
    · rw [if_pos huser, if_pos huser]
      rfl
    · rw [if_neg huser, if_neg huser]
      cases Text.blank payload.username <;> rfl

/-- A token is accepted when it has claims, the window is not over, and the number is above zero and the
name not blank. -/
theorem verifyAt_eq_ok_iff {keys : KeySet} {leeway : UInt64} {token : String} {now : Int64}
    {payload : Payload} :
    verifyAt { ofKeys keys with leeway } token now = .ok payload ↔
      claims { ofKeys keys with leeway } token = .ok payload ∧
        now.toInt ≤ payload.exp.toInt + leeway.toNat ∧ 0 < payload.userId ∧
        Text.blank payload.username = false := by
  constructor
  · intro hverified
    obtain ⟨found, hclaims, -⟩ := bind_eq_ok_iff.1 hverified
    obtain ⟨-, -, -, -, hexp⟩ := claims_eq_ok_iff.1 hclaims
    rw [verifyAt_of_claims hclaims hexp now] at hverified
    split at hverified
    · cases hverified
    · next hearly =>
        split at hverified
        · cases hverified
        · next huser =>
            split at hverified
            · cases hverified
            · next hname =>
                cases hverified
                exact ⟨hclaims, Int.not_lt.1 hearly, Int64.not_le.1 huser, Bool.eq_false_iff.2 hname⟩
  · rintro ⟨hclaims, hearly, huser, hname⟩
    obtain ⟨-, -, -, -, hexp⟩ := claims_eq_ok_iff.1 hclaims
    rw [verifyAt_of_claims hclaims hexp now, if_neg (Int.not_lt.2 hearly),
      if_neg (Int64.not_le.2 huser), hname]
    rfl

/-- A verifier of the algorithm of its keys accepts exactly the tokens that carry the payload which it
gives back, inside their window and with an identity; registered claims only have to be readable. A token
without any of these that is sound up to its window and identity is said to have expired when the window
is over, and otherwise to name nobody. A header that names anything else than the algorithm is never
accepted. -/
theorem verifyAt_exactly_valid (keys : KeySet) (leeway : UInt64) (token : String) (now : Int64) :
    (∀ payload, verifyAt { ofKeys keys with leeway } token now = .ok payload ↔
      ∃ members, keys.Carries token members ∧ payload.IsOf members ∧ RegisteredReadable members ∧
        0 ≤ payload.exp ∧ now.toInt ≤ payload.exp.toInt + leeway.toNat ∧ 0 < payload.userId ∧
        Text.blank payload.username = false) ∧
    (∀ members payload, keys.Carries token members → payload.IsOf members →
      (∀ member ∈ members, member.1 ∉ registeredClaims) → 0 ≤ payload.exp →
      verifyAt { ofKeys keys with leeway } token now =
        if payload.exp.toInt + leeway.toNat < now.toInt then .error .expired
        else if payload.userId ≤ 0 then .error (.invalidClaim .userId)
        else if Text.blank payload.username then .error (.invalidClaim .username)
        else .ok payload) ∧
    ∀ header rest members value,
      token = String.ofList (Base64.encode Base64.urlSafe header ++ '.' :: rest) →
      Header.HasMembers header members → value ∈ valuesOf "alg" members →
      choice? algorithmNames value ≠ some keys.algorithm.name →
      ∀ payload, verifyAt { ofKeys keys with leeway } token now ≠ .ok payload := by
  refine ⟨fun payload => ?_, fun members payload hcarries hof hnone hexp => ?_, ?_⟩
  · rw [verifyAt_eq_ok_iff, claims_eq_ok_iff]
    simp only [and_assoc, ← exists_and_right]
  · have hclaims : claims { ofKeys keys with leeway } token = .ok payload :=
      claims_eq_ok_iff.2 ⟨members, hcarries, hof, registeredReadable_of_none hnone, hexp⟩
    exact verifyAt_of_claims hclaims hexp now
  · intro header rest members value htoken hmembers hvalue hother payload hverified
    obtain ⟨named, ⟨header', text, signature, hsigned, -⟩, -⟩ :=
      claims_eq_ok_iff.1 (verifyAt_eq_ok_iff.1 hverified).1
    obtain ⟨named, hnamed, hnames⟩ := hsigned.names
    have hheader : header = header' := by
      have hparts := hsigned.parts
      rw [htoken, List.append_assoc] at hparts
      exact eq_of_encode_append (String.ofList_injective hparts)
    obtain ⟨only, honly, hchoice⟩ := hnames.algorithm
    rw [← hheader] at hnamed
    rw [hmembers.eq hnamed, honly, List.mem_singleton] at hvalue
    exact hother (hvalue ▸ hchoice)

/-- A header with a byte that belongs to no text, in a member without a meaning. -/
def oddHeader : Bytes :=
  Text.utf8 "\x7b\"alg\":\"HS256\",\"note\":\"\\ud800" ++ 0xff :: Text.utf8 "\"\x7d"

theorem read_oddHeader : Header.read oddHeader = .ok ⟨"HS256"⟩ := by decide +kernel

/-- A token with a claim of its own behind such a header, in its last second and one second later. -/
theorem verifyAt_exactly_valid_admin :
    let keys := KeySet.hs256 (Text.utf8 "secret")
    ∃ token payload signature members, keys.Signed token oddHeader payload signature ∧
      Json.parse? payload = some (.obj members) ∧
      verifyAt { ofKeys keys with leeway := 30 } token 4630 =
        .ok ⟨7, "Zoë", 1000, 4600, [("role", .str "admin")]⟩ ∧
      verifyAt { ofKeys keys with leeway := 30 } token 4631 = .error .expired := by
  intro keys
  let members : List (String × Json) := [("user_id", .int 7), ("username", .str "Zoë"),
    ("iat", .int 1000), ("exp", .int 4600), ("role", .str "admin")]
  have hobject : Json.parse? (Json.obj members).compact = some (.obj members) :=
    Json.parse?_compact rfl
  obtain ⟨token, signature, hsigned⟩ : ∃ token signature,
      keys.Signed token oddHeader (Json.obj members).compact signature :=
    ⟨_, _, rfl, Header.read_eq_ok_iff.1 read_oddHeader, rfl⟩
  have hcarries : keys.Carries token members := ⟨_, _, _, hsigned, hobject⟩
  have hof : Payload.IsOf ⟨7, "Zoë", 1000, 4600, [("role", .str "admin")]⟩ members :=
    ⟨rfl, rfl, rfl, rfl, by decide, rfl⟩
  have hnone : ∀ member ∈ members, member.1 ∉ registeredClaims := by decide
  refine ⟨token, _, signature, members, hsigned, hobject, ?_, ?_⟩
  · refine ((verifyAt_exactly_valid _ 30 token 4630).2.1 _ _ hcarries hof hnone (by decide)).trans ?_
    rfl
  · refine ((verifyAt_exactly_valid _ 30 token 4631).2.1 _ _ hcarries hof hnone (by decide)).trans ?_
    rfl

end Verifier

end Gatehouse.Token
