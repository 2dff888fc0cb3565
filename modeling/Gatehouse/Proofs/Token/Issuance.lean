import Gatehouse.Proofs.Token.RoundTrip

/-!
# What an issuer gives out

In whole numbers: which requests for a token are met, what the payload of the token says then, and why
the others are refused. A word of 64 bits bounds the life of a token and its expiry, and neither ever
wraps around.
-/

namespace Gatehouse.Token

open Crypto (Base64.dot_not_mem_encode Base64.encode Base64.urlSafe)

/-! ## Words -/

/-- The seconds of some hours are exact. -/
theorem lifetime?_eq_some_iff {hours lifetime : Int64} :
    lifetime? hours = some lifetime ↔ 0 < hours ∧ lifetime.toInt = 3600 * hours.toInt := by
  rw [lifetime?, secondsPerHour, Option.filter_eq_some_iff, Number.toInt64?_eq_some_iff,
    decide_eq_true_eq, Int64.lt_iff_toInt_lt, Int64.lt_iff_toInt_lt, Int64.toInt_zero]
  omega

/-- There are none when there are no hours or too many of them. -/
theorem lifetime?_eq_none_iff {hours : Int64} :
    lifetime? hours = none ↔ hours ≤ 0 ∨ Int64.maxValue.toInt < 3600 * hours.toInt := by
  constructor
  · intro hnone
    by_contra hbounds
    obtain ⟨hpositive, hfits⟩ := not_or.1 hbounds
    have hhours : 0 < hours.toInt := Int64.lt_iff_toInt_lt.1 (Int64.not_le.1 hpositive)
    rw [Int64.toInt_maxValue] at hfits
    have hword : (Int64.ofInt (3600 * hours.toInt)).toInt = 3600 * hours.toInt :=
      Int64.toInt_ofInt_of_le (by omega) (by omega)
    have hsome := lifetime?_eq_some_iff.2 ⟨Int64.not_le.1 hpositive, hword⟩
    rw [hnone] at hsome
    cases hsome
  · intro hbounds
    refine Option.eq_none_iff_forall_ne_some.2 fun lifetime hsome => ?_
    obtain ⟨hpositive, hword⟩ := lifetime?_eq_some_iff.1 hsome
    have hfits := lifetime.toInt_le
    rcases hbounds with hnone | hlong
    · exact absurd hnone (Int64.not_le.2 hpositive)
    · omega

/-- A payload cannot be made when its expiry would lie behind the last second. -/
theorem Payload.create?_eq_none_of_lt {issuedAt lifetime : Int64} (userId : Int64)
    (username : String)
    (hlate : Int64.maxValue.toInt < issuedAt.toInt + lifetime.toInt) :
    create? userId username issuedAt lifetime = none := by
  rw [create?, Option.map_eq_none_iff]
  refine Option.eq_none_iff_forall_ne_some.2 fun exp hexp => ?_
  have hword := Number.toInt64?_eq_some_iff.1 hexp
  have hfits := exp.toInt_le
  omega

/-! ## Signed payloads -/

/-- The payload of a token, whoever signed it. -/
def payloadOf (token : String) : Except TokenError Payload :=
  match Parts.ofToken? token with
  | none => .error .malformed
  | some parts => decodePart parts.payload >>= readText Payload.read

/-- Keys that can sign do sign every text. -/
def KeySet.SignsAll (keys : KeySet) : Prop :=
  keys.canSign = true → ∀ text, ∃ signature, keys.sign text = .ok signature

/-- Every signature is written in base 64. -/
theorem KeySet.exists_encode_of_sign {keys : KeySet} {text signature : List Char}
    (hsigned : keys.sign text = .ok signature) :
    ∃ bytes, signature = Base64.encode Base64.urlSafe bytes := by
  unfold KeySet.sign at hsigned
  dsimp only at hsigned
  split at hsigned
  · cases hsigned
    exact ⟨_, rfl⟩
  · cases hsigned
  · split at hsigned
    · cases hsigned
      exact ⟨_, rfl⟩
    · cases hsigned

theorem KeySet.dot_not_mem_of_sign {keys : KeySet} {text signature : List Char}
    (hsigned : keys.sign text = .ok signature) : '.' ∉ signature := by
  obtain ⟨bytes, rfl⟩ := exists_encode_of_sign hsigned
  exact Base64.dot_not_mem_encode bytes

/-- A token holds the payload that it was made of. -/
theorem KeySet.payloadOf_of_tokenOf {keys : KeySet} {payload : Payload} {token : String}
    (hextra : payload.extra = []) (htoken : keys.tokenOf payload = .ok token) :
    payloadOf token = .ok payload := by
  obtain ⟨signature, hsigned, rfl⟩ := map_eq_ok_iff.1 htoken
  have hparts : Parts.ofToken?
      (String.ofList (signedText keys.algorithm payload ++ '.' :: signature)) = some _ :=
    Parts.ofToken?_ofList _ (dot_not_mem_encodePart payload.text) (dot_not_mem_of_sign hsigned)
  rw [payloadOf, hparts]
  refine bind_eq_ok_iff.2 ⟨_, decodePart_encodePart payload.text, ?_⟩
  rw [readText_utf8, Payload.read_text hextra]
  rfl

theorem KeySet.SignsAll.exists_tokenOf {keys : KeySet} (hsigns : keys.SignsAll)
    (hkeys : keys.canSign = true) (payload : Payload) :
    ∃ token, keys.tokenOf payload = .ok token := by
  obtain ⟨signature, hsigned⟩ := hsigns hkeys (signedText keys.algorithm payload)
  exact ⟨_, map_eq_ok_iff.2 ⟨signature, hsigned, rfl⟩⟩

theorem KeySet.tokenOf_of_not_canSign {keys : KeySet} (hverifies : keys.canSign = false)
    (payload : Payload) : keys.tokenOf payload = .error .signingKeyUnavailable := by
  cases keys with
  | hs256 secret => cases hverifies
  | rs256 verification signing =>
      cases signing with
      | none => rfl
      | some key => cases hverifies

/-! ## Requests -/

/-- The reasons to refuse a token, in the order in which they are looked for. -/
def refusals : List TokenError :=
  [.invalidInput .userId, .invalidInput .username, .invalidInput .expiryHours,
    .invalidInput .overflow, .signingKeyUnavailable]

namespace Issuer

/-- Whether a reason to refuse a token applies, whatever else does. -/
def objects (issuer : Issuer) (userId : Int64) (username : String) (issuedAt : Int64) :
    TokenError → Bool
  | .invalidInput .userId => userId ≤ 0
  | .invalidInput .username => Text.blank username
  | .invalidInput .expiryHours =>
    issuer.expiryHours ≤ 0 ∨ Int64.maxValue.toInt < 3600 * issuer.expiryHours.toInt
  | .invalidInput .overflow =>
    Int64.maxValue.toInt < issuedAt.toInt + 3600 * issuer.expiryHours.toInt
  | .signingKeyUnavailable => !issuer.keys.canSign
  | _ => false

variable {issuer : Issuer} {userId : Int64} {username : String} {issuedAt : Int64}

theorem objects_userId :
    issuer.objects userId username issuedAt (.invalidInput .userId) = true ↔ userId ≤ 0 :=
  decide_eq_true_iff

theorem objects_username :
    issuer.objects userId username issuedAt (.invalidInput .username) = true ↔
      Text.blank username = true := Iff.rfl

theorem objects_expiryHours :
    issuer.objects userId username issuedAt (.invalidInput .expiryHours) = true ↔
      issuer.expiryHours ≤ 0 ∨ Int64.maxValue.toInt < 3600 * issuer.expiryHours.toInt :=
  decide_eq_true_iff

theorem objects_overflow :
    issuer.objects userId username issuedAt (.invalidInput .overflow) = true ↔
      Int64.maxValue.toInt < issuedAt.toInt + 3600 * issuer.expiryHours.toInt :=
  decide_eq_true_iff

theorem objects_signingKeyUnavailable :
    issuer.objects userId username issuedAt .signingKeyUnavailable = true ↔
      issuer.keys.canSign = false := by
  rw [objects, Bool.not_eq_true']

/-- Hours whose seconds no word holds count as bad hours. -/
theorem payloadAt_of_bad_hours (huser : ¬userId ≤ 0) (hname : ¬Text.blank username = true)
    (hhours : issuer.expiryHours ≤ 0 ∨ Int64.maxValue.toInt < 3600 * issuer.expiryHours.toInt) :
    issuer.payloadAt userId username issuedAt = .error (.invalidInput .expiryHours) := by
  rw [payloadAt, if_neg huser, if_neg hname, lifetime?_eq_none_iff.2 hhours]

theorem payloadAt_of_overflow (huser : ¬userId ≤ 0) (hname : ¬Text.blank username = true)
    (hhours : ¬(issuer.expiryHours ≤ 0 ∨
      Int64.maxValue.toInt < 3600 * issuer.expiryHours.toInt))
    (hlate : Int64.maxValue.toInt < issuedAt.toInt + 3600 * issuer.expiryHours.toInt) :
    issuer.payloadAt userId username issuedAt = .error (.invalidInput .overflow) := by
  obtain ⟨lifetime, hlifetime⟩ := Option.ne_none_iff_exists'.1 (mt lifetime?_eq_none_iff.1 hhours)
  have hword := (lifetime?_eq_some_iff.1 hlifetime).2
  have hnone := Payload.create?_eq_none_of_lt userId username (hword ▸ hlate)
  rw [payloadAt, if_neg huser, if_neg hname, hlifetime]
  dsimp only
  rw [hnone]

/-- With hours and an expiry in bounds there is a payload, and its expiry is exact. -/
theorem exists_payloadAt (huser : ¬userId ≤ 0) (hname : ¬Text.blank username = true)
    (hhours : ¬(issuer.expiryHours ≤ 0 ∨
      Int64.maxValue.toInt < 3600 * issuer.expiryHours.toInt))
    (hroom : ¬Int64.maxValue.toInt < issuedAt.toInt + 3600 * issuer.expiryHours.toInt) :
    ∃ exp : Int64, exp.toInt = issuedAt.toInt + 3600 * issuer.expiryHours.toInt ∧
      issuer.payloadAt userId username issuedAt =
        .ok { userId, username, iat := issuedAt, exp } := by
  obtain ⟨hpositive, hfits⟩ := not_or.1 hhours
  have hpositive : 0 < issuer.expiryHours := Int64.not_le.1 hpositive
  have hlife : 0 < issuer.expiryHours.toInt := Int64.lt_iff_toInt_lt.1 hpositive
  have hlow := issuedAt.le_toInt
  rw [Int64.toInt_maxValue] at hroom
  have hexp : (Int64.ofInt (issuedAt.toInt + 3600 * issuer.expiryHours.toInt)).toInt =
      issuedAt.toInt + 3600 * issuer.expiryHours.toInt :=
    Int64.toInt_ofInt_of_le (by omega) (by omega)
  refine ⟨_, hexp, issuer.payloadAt_eq (Int64.not_le.1 huser) (Bool.eq_false_iff.2 hname) hpositive
    (by omega) ?_⟩
  rw [hexp, Int.mul_comm]

/-- A request is refused for the first reason that applies, or else the payload that was asked for is
signed. -/
theorem issueAt_cases (issuer : Issuer) (userId : Int64) (username : String) (issuedAt : Int64) :
    (∃ reason, refusals.find? (issuer.objects userId username issuedAt) = some reason ∧
      issuer.issueAt userId username issuedAt = .error reason) ∨
    refusals.find? (issuer.objects userId username issuedAt) = none ∧
      ∃ exp : Int64, exp.toInt = issuedAt.toInt + 3600 * issuer.expiryHours.toInt ∧
        issuer.issueAt userId username issuedAt =
          issuer.keys.tokenOf { userId, username, iat := issuedAt, exp } := by
  rw [issueAt, refusals]
  by_cases huser : userId ≤ 0
  · rw [List.find?_cons_of_pos (objects_userId.2 huser), payloadAt, if_pos huser]
    exact .inl ⟨_, rfl, rfl⟩
  rw [List.find?_cons_of_neg (mt objects_userId.1 huser)]
  by_cases hname : Text.blank username = true
  · rw [List.find?_cons_of_pos (objects_username.2 hname), payloadAt, if_neg huser, if_pos hname]
    exact .inl ⟨_, rfl, rfl⟩
  rw [List.find?_cons_of_neg (mt objects_username.1 hname)]
  by_cases hhours : issuer.expiryHours ≤ 0 ∨
      Int64.maxValue.toInt < 3600 * issuer.expiryHours.toInt
  · rw [List.find?_cons_of_pos (objects_expiryHours.2 hhours),
      payloadAt_of_bad_hours huser hname hhours]
    exact .inl ⟨_, rfl, rfl⟩
  rw [List.find?_cons_of_neg (mt objects_expiryHours.1 hhours)]
  by_cases hlate : Int64.maxValue.toInt < issuedAt.toInt + 3600 * issuer.expiryHours.toInt
  · rw [List.find?_cons_of_pos (objects_overflow.2 hlate),
      payloadAt_of_overflow huser hname hhours hlate]
    exact .inl ⟨_, rfl, rfl⟩
  rw [List.find?_cons_of_neg (mt objects_overflow.1 hlate)]
  obtain ⟨exp, hexp, hpayload⟩ := exists_payloadAt huser hname hhours hlate
  rw [hpayload]
  change _ ∨ _ ∧ ∃ exp : Int64, _ ∧ issuer.keys.tokenOf _ = _
  by_cases hkeys : issuer.keys.canSign = false
  · rw [List.find?_cons_of_pos (objects_signingKeyUnavailable.2 hkeys)]
    exact .inl ⟨_, rfl, KeySet.tokenOf_of_not_canSign hkeys _⟩
  · rw [List.find?_cons_of_neg (mt objects_signingKeyUnavailable.1 hkeys)]
    exact .inr ⟨rfl, exp, hexp, rfl⟩

/-- No reason applies when everything that was asked for is in bounds and the keys can sign. -/
theorem find?_refusals_eq_none_iff :
    refusals.find? (issuer.objects userId username issuedAt) = none ↔
      0 < userId ∧ Text.blank username = false ∧ 0 < issuer.expiryHours ∧
        3600 * issuer.expiryHours.toInt ≤ Int64.maxValue.toInt ∧
        issuedAt.toInt + 3600 * issuer.expiryHours.toInt ≤ Int64.maxValue.toInt ∧
        issuer.keys.canSign = true := by
  rw [List.find?_eq_none]
  simp only [refusals, List.forall_mem_cons, objects_userId, objects_username, objects_expiryHours,
    objects_overflow, objects_signingKeyUnavailable]
  simp [and_assoc]

/-- Keys that sign, a request for a token, and all in whole numbers: there is a token exactly if the user
has a number above zero and a name that is not blank, there are hours, neither their seconds nor the
expiry lie behind the last second, and the keys can sign. The payload of the token begins at the time
that was asked for and ends exactly these seconds later. Otherwise there is no token, and the reason is
the first one that applies. -/
theorem issueAt_exact {issuer : Issuer} (hsigns : issuer.keys.SignsAll) (userId : Int64)
    (username : String) (issuedAt : Int64) :
    ((∃ token, issuer.issueAt userId username issuedAt = .ok token) ↔
      0 < userId ∧ Text.blank username = false ∧ 0 < issuer.expiryHours ∧
        3600 * issuer.expiryHours.toInt ≤ Int64.maxValue.toInt ∧
        issuedAt.toInt + 3600 * issuer.expiryHours.toInt ≤ Int64.maxValue.toInt ∧
        issuer.keys.canSign = true) ∧
    (∀ token, issuer.issueAt userId username issuedAt = .ok token →
      ∃ exp : Int64,
        payloadOf token = .ok { userId, username, iat := issuedAt, exp, extra := [] } ∧
        exp.toInt - issuedAt.toInt = 3600 * issuer.expiryHours.toInt ∧ issuedAt < exp) ∧
    ∀ reason, issuer.issueAt userId username issuedAt = .error reason ↔
      refusals.find? (issuer.objects userId username issuedAt) = some reason := by
  rw [← find?_refusals_eq_none_iff]
  rcases issueAt_cases issuer userId username issuedAt with
    ⟨reason, hfirst, hrefused⟩ | ⟨hnone, exp, hexp, hissued⟩
  · rw [hfirst, hrefused]
    simp [eq_comm]
  · obtain ⟨-, -, hhours, -, -, hkeys⟩ := find?_refusals_eq_none_iff.1 hnone
    obtain ⟨token, htoken⟩ := hsigns.exists_tokenOf hkeys
      { userId, username, iat := issuedAt, exp }
    have hlife : 0 < issuer.expiryHours.toInt := Int64.lt_iff_toInt_lt.1 hhours
    have hlater : issuedAt < exp := by
      rw [Int64.lt_iff_toInt_lt]
      omega
    rw [hnone, hissued, htoken]
    refine ⟨⟨fun _ => rfl, fun _ => ⟨token, rfl⟩⟩, ?_, fun reason => ⟨nofun, nofun⟩⟩
    rintro _ ⟨⟩
    exact ⟨exp, KeySet.payloadOf_of_tokenOf rfl htoken, by omega, hlater⟩

/-- The longest life that a word holds, up to the last second there is, then beyond it, and one hour
more. -/
theorem issueAt_exact_last_second :
    let keys := KeySet.hs256 (Text.utf8 "secret")
    keys.SignsAll ∧
      (∃ token, issueAt ⟨keys, 2562047788015215⟩ 7 "Zoë" 1807 = .ok token ∧
        payloadOf token =
          .ok { userId := 7, username := "Zoë", iat := 1807, exp := Int64.maxValue, extra := [] }) ∧
      issueAt ⟨keys, 2562047788015215⟩ 7 "Zoë" 1808 = .error (.invalidInput .overflow) ∧
      issueAt ⟨keys, 2562047788015216⟩ 7 "Zoë" (-1) = .error (.invalidInput .expiryHours) := by
  intro keys
  have hsigns : keys.SignsAll := fun _ text => by
    obtain ⟨signature, hsigned, -⟩ := KeySet.fits_hs256 (Text.utf8 "secret") text
    exact ⟨signature, hsigned⟩
  obtain ⟨hissues, hholds, -⟩ := @issueAt_exact ⟨keys, 2562047788015215⟩ hsigns 7 "Zoë" 1807
  obtain ⟨token, htoken⟩ := hissues.2 (by decide)
  obtain ⟨exp, hpayload, hexp, -⟩ := hholds token htoken
  have hlast : exp = Int64.maxValue := by
    rw [← Int64.toInt_inj]
    exact (Int.sub_eq_iff_eq_add.1 hexp).trans (by decide)
  obtain ⟨-, -, hlate⟩ := @issueAt_exact ⟨keys, 2562047788015215⟩ hsigns 7 "Zoë" 1808
  obtain ⟨-, -, hlong⟩ := @issueAt_exact ⟨keys, 2562047788015216⟩ hsigns 7 "Zoë" (-1)
  exact ⟨hsigns, ⟨token, htoken, hlast ▸ hpayload⟩, (hlate _).2 (by decide), (hlong _).2 (by decide)⟩

end Issuer

end Gatehouse.Token
