import Gatehouse.Proofs.Http.PlainText
import Gatehouse.Proofs.Text.Blank
import Gatehouse.Proofs.Token.Issuance
import Gatehouse.Token.Guard

/-!
# Tokens in header fields

Which header fields show a token, and which one: of the `Authorization` fields only the first counts, and in
its value the token stands behind `Bearer` and one space, between runs of spaces and tabs. A token that an
issuer gave out has no blank in it, so that it arrives as it was issued.
-/

namespace Gatehouse.Http.Headers

/-- The value is the first one of its name. -/
def IsFirst (headers : Headers) (name : FieldName) (value : FieldValue) : Prop :=
  ∃ before after, headers.fields = before ++ (name, value) :: after ∧ ∀ field ∈ before, field.1 ≠ name

theorem get?_eq_some_iff {headers : Headers} {name : FieldName} {value : FieldValue} :
    headers.get? name = some value ↔ headers.IsFirst name value := by
  rw [get?, values, List.head?_map, List.head?_filter, Option.map_eq_some_iff]
  constructor
  · rintro ⟨⟨found, _⟩, hfound, rfl⟩
    obtain ⟨hname, before, after, hfields, hbefore⟩ := List.find?_eq_some_iff_append.1 hfound
    obtain rfl : found = name := of_decide_eq_true hname
    exact ⟨before, after, hfields, fun field hfield => by simpa using hbefore field hfield⟩
  · rintro ⟨before, after, hfields, hbefore⟩
    refine ⟨(name, value), List.find?_eq_some_iff_append.2 ⟨by simp, before, after, hfields, ?_⟩, rfl⟩
    exact fun field hfield => by simpa using hbefore field hfield

theorem isFirst_singleton (name : FieldName) (value : FieldValue) :
    (Headers.mk [(name, value)]).IsFirst name value :=
  ⟨[], [], rfl, fun _ hfield => absurd hfield List.not_mem_nil⟩

end Gatehouse.Http.Headers

namespace Gatehouse.Token

open Crypto (Base64.digit Base64.encode Base64.encode_eq_map Base64.lt_of_mem_sextets Base64.urlSafe)
open Http (FieldValue Headers)

/-! ## The grammar -/

/-- Spaces and tabs only. -/
def IsGap (s : String) : Prop := ∀ c ∈ s.toList, c = ' ' ∨ c = '\t'

instance (s : String) : Decidable (IsGap s) :=
  List.decidableBAll (fun c => c = ' ' ∨ c = '\t') s.toList

/-- A value of visible characters, spaces and tabs shows a token: `Bearer` and one space, and then the token
between two gaps. The token neither begins nor ends with a blank. -/
structure Bears (value : FieldValue) (token : String) : Prop where
  visible : value.bytes.all FieldValue.isPlainByte = true
  written : ∃ before after, IsGap before ∧ IsGap after ∧
    value.bytes = Text.utf8 ("Bearer " ++ before ++ token ++ after)
  filled : token ≠ ""
  trimmed : Text.IsTrimmed Text.isBlank token.toList

theorem bearerMark_eq : bearerMark = "Bearer ".toList := rfl

theorem after?_eq_some_iff {mark cs rest : List Char} : after? mark cs = some rest ↔ cs = mark ++ rest := by
  unfold after?
  constructor
  · intro hafter
    split at hafter
    · next hmark =>
        cases hafter
        obtain ⟨rest, rfl⟩ := List.isPrefixOf_iff_prefix.1 hmark
        rw [List.drop_left]
    · cases hafter
  · rintro rfl
    rw [if_pos (List.isPrefixOf_iff_prefix.2 (List.prefix_append mark rest)), List.drop_left]

theorem isBlank_of_isGap {s : String} (hgap : IsGap s) : ∀ c ∈ s.toList, Text.isBlank c = true := by
  intro c hc
  rcases hgap c hc with rfl | rfl
  · rfl
  · rfl

/-- Blanks in a plain text are spaces and tabs. -/
theorem isGap_of_isPlain {cs : List Char} (hplain : Http.IsPlain cs)
    (hblank : ∀ c ∈ cs, Text.isBlank c = true) : IsGap (String.ofList cs) := by
  intro c hc
  rw [String.toList_ofList] at hc
  exact (Http.isBlank_iff_of_isPlainChar (hplain c hc)).1 (hblank c hc)

/-- A token is found exactly when the first `Authorization` value shows it. -/
theorem bearerToken?_eq_some_iff {headers : Headers} {token : String} :
    bearerToken? headers = some token ↔
      ∃ value, headers.IsFirst .authorization value ∧ Bears value token := by
  constructor
  · intro hfound
    obtain ⟨text, htext, hfound⟩ := Option.bind_eq_some_iff.1 hfound
    obtain ⟨value, hvalue, htext⟩ := Option.bind_eq_some_iff.1 htext
    obtain ⟨rest, hrest, hfound⟩ := Option.bind_eq_some_iff.1 hfound
    obtain ⟨hsome, htoken⟩ := Option.ite_none_left_eq_some.1 hfound
    obtain rfl := Option.some.inj htoken
    obtain ⟨hvisible, hbytes⟩ := Http.text?_eq_some_iff.1 htext
    obtain ⟨before, after, hsplit, hbefore, hafter⟩ := Text.exists_runs_stripWhile Text.isBlank rest
    have hwhole : text.toList =
        bearerMark ++ (before ++ Text.stripWhile Text.isBlank rest ++ after) := by
      rw [← hsplit]
      exact after?_eq_some_iff.1 hrest
    have hplain := Http.isPlain_of_text? htext
    rw [hwhole, Http.isPlain_append, Http.isPlain_append, Http.isPlain_append] at hplain
    obtain ⟨-, ⟨hplainBefore, -⟩, hplainAfter⟩ := hplain
    refine ⟨value, Headers.get?_eq_some_iff.1 hvalue, hvisible,
      ⟨String.ofList before, String.ofList after, ?_, ?_, ?_⟩, hsome, ?_⟩
    · exact isGap_of_isPlain hplainBefore hbefore
    · exact isGap_of_isPlain hplainAfter hafter
    · rw [hbytes]
      refine congrArg Text.utf8 (String.toList_injective ?_)
      simp only [hwhole, bearerMark_eq, Text.trim, String.toList_append, String.toList_ofList,
        List.append_assoc]
    · rw [Text.trim, String.toList_ofList, String.toList_ofList]
      exact Text.isTrimmed_stripWhile Text.isBlank rest
  · rintro ⟨value, hfirst, hvisible, ⟨before, after, hbefore, hafter, hbytes⟩, hsome, htrimmed⟩
    have htext := Http.text?_eq_some_iff.2 ⟨hvisible, hbytes⟩
    have hrest : after? bearerMark ("Bearer " ++ before ++ token ++ after).toList =
        some (before.toList ++ token.toList ++ after.toList) :=
      after?_eq_some_iff.2 (by simp only [bearerMark_eq, String.toList_append, List.append_assoc])
    have hkept : Text.trim (String.ofList (before.toList ++ token.toList ++ after.toList)) = token := by
      rw [Text.trim, String.toList_ofList, Text.stripWhile_append htrimmed
        (String.toList_eq_nil_iff.not.2 hsome) (isBlank_of_isGap hbefore) (isBlank_of_isGap hafter),
        String.ofList_toList]
    unfold bearerToken?
    rw [Headers.get?_eq_some_iff.2 hfirst, Option.bind_some, htext, Option.bind_some, hrest,
      Option.bind_some]
    dsimp only
    rw [hkept, if_neg hsome]

/-- A value shows one token at most. -/
theorem Bears.unique {value : FieldValue} {token other : String} (htoken : Bears value token)
    (hother : Bears value other) : token = other := by
  have hfirst := Headers.isFirst_singleton .authorization value
  have hfound := bearerToken?_eq_some_iff.2 ⟨value, hfirst, htoken⟩
  rw [bearerToken?_eq_some_iff.2 ⟨value, hfirst, hother⟩] at hfound
  exact (Option.some.inj hfound).symm

/-- Nothing counts but the first `Authorization` value. -/
theorem bearerToken?_congr {headers others : Headers} {value : FieldValue}
    (hfirst : headers.IsFirst .authorization value) (hother : others.IsFirst .authorization value) :
    bearerToken? others = bearerToken? headers := by
  rw [bearerToken?, bearerToken?, Headers.get?_eq_some_iff.2 hfirst, Headers.get?_eq_some_iff.2 hother]

/-! ## Outcomes -/

section Outcomes

variable {verifier : Verifier} {now : Int64} {headers : Headers}

theorem authenticate_of_accepted {token : String} {payload : Payload}
    (htoken : bearerToken? headers = some token)
    (haccepted : verifier.verifyAt token now = .ok payload) :
    authenticate verifier now headers = .ok ⟨payload.userId, payload.username⟩ := by
  rw [authenticate, htoken]
  dsimp only
  rw [haccepted]

/-- Whatever is wrong with a token, the caller is told the same. -/
theorem authenticate_of_refused {token : String} {reason : TokenError}
    (htoken : bearerToken? headers = some token)
    (hrefused : verifier.verifyAt token now = .error reason) :
    authenticate verifier now headers = .error .invalidToken := by
  rw [authenticate, htoken]
  dsimp only
  rw [hrefused]

end Outcomes

/-! ## Issued tokens -/

/-- A token that an issuer gives out: to a user, or for a payload. -/
inductive Issuer.Gives (issuer : Issuer) (token : String) : Prop
  | user {userId : Int64} {username : String} {issuedAt : Int64}
      (hissued : issuer.issueAt userId username issuedAt = .ok token) : Issuer.Gives issuer token
  | payload {payload : Payload} (hsigned : issuer.keys.tokenOf payload = .ok token) :
      Issuer.Gives issuer token

theorem Issuer.Gives.exists_tokenOf {issuer : Issuer} {token : String} (hgives : issuer.Gives token) :
    ∃ payload, issuer.keys.tokenOf payload = .ok token := by
  cases hgives with
  | user hissued =>
      obtain ⟨payload, -, hsigned⟩ := bind_eq_ok_iff.1 hissued
      exact ⟨payload, hsigned⟩
  | payload hsigned => exact ⟨_, hsigned⟩

/-- Base 64 is written in characters of HTTP's words. -/
theorem isTokenChar_of_mem_encode {bytes : Bytes} {c : Char}
    (hc : c ∈ Base64.encode Base64.urlSafe bytes) : Http.isTokenChar c = true := by
  have hdigits : ∀ n < 64, Http.isTokenChar (Base64.digit Base64.urlSafe n) = true := by decide
  rw [Base64.encode_eq_map] at hc
  obtain ⟨n, hn, rfl⟩ := List.mem_map.1 hc
  exact hdigits n (Base64.lt_of_mem_sextets n hn)

/-- A token that keys give out is a word of HTTP. -/
theorem KeySet.isToken_of_tokenOf {keys : KeySet} {payload : Payload} {token : String}
    (hsigned : keys.tokenOf payload = .ok token) : Http.isToken token = true := by
  obtain ⟨signature, hsignature, rfl⟩ := map_eq_ok_iff.1 hsigned
  obtain ⟨bytes, rfl⟩ := KeySet.exists_encode_of_sign hsignature
  have hdot : Http.isTokenChar '.' = true := by decide
  have hpart {text : List Char} (hrest : ∀ c ∈ text, Http.isTokenChar c = true) (start : Bytes) :
      ∀ c ∈ Base64.encode Base64.urlSafe start ++ '.' :: text, Http.isTokenChar c = true := by
    intro c hc
    rcases List.mem_append.1 hc with hc | hc
    · exact isTokenChar_of_mem_encode hc
    · rcases List.mem_cons.1 hc with rfl | hc
      · exact hdot
      · exact hrest c hc
  rw [Http.isToken, String.toList_ofList, Bool.and_eq_true, decide_eq_true_eq, List.all_eq_true]
  constructor
  · intro hnone
    have hlist := congrArg String.toList hnone
    simp at hlist
  · rw [signedText, List.append_assoc, List.cons_append]
    exact hpart (hpart (fun c => isTokenChar_of_mem_encode) _) _

/-- Spaces and tabs around an issued token are all that a field adds to it. -/
theorem Issuer.Gives.exists_bears {issuer : Issuer} {token before after : String}
    (hgives : issuer.Gives token) (hbefore : IsGap before) (hafter : IsGap after) :
    ∃ value : FieldValue, value.bytes = Text.utf8 ("Bearer " ++ before ++ token ++ after) ∧
      Bears value token := by
  obtain ⟨payload, hsigned⟩ := hgives.exists_tokenOf
  have hword := KeySet.isToken_of_tokenOf hsigned
  rw [Http.isToken, Bool.and_eq_true, decide_eq_true_eq, List.all_eq_true] at hword
  obtain ⟨hsome, hchars⟩ := hword
  have hgap {s : String} (hs : IsGap s) : Http.IsPlain s.toList := by
    intro c hc
    rcases hs c hc with rfl | rfl
    · rfl
    · rfl
  have hmark : Http.IsPlain "Bearer ".toList := by decide
  have hplain : Http.IsPlain ("Bearer " ++ before ++ token ++ after).toList := by
    rw [String.toList_append, String.toList_append, String.toList_append]
    simp only [Http.isPlain_append]
    have hinner : Http.IsPlain token.toList := fun c hc =>
      Http.isPlainChar_of_isTokenChar (hchars c hc)
    exact ⟨⟨⟨hmark, hgap hbefore⟩, hinner⟩, hgap hafter⟩
  obtain ⟨value, -, hbytes, hvisible⟩ := Http.exists_ofString?_of_isPlain hplain
  exact ⟨value, hbytes, hvisible, ⟨before, after, hbefore, hafter, hbytes⟩, hsome,
    Text.isTrimmed_of_forall fun c hc => Http.isBlank_of_isTokenChar (hchars c hc)⟩

/-- A token is found in header fields exactly when the first `Authorization` value is visible and reads
`Bearer`, one space and that token between spaces and tabs, which it keeps inside. It is the only one that
the value shows, and no other field counts. A token that was issued is found as it is, whatever spaces and
tabs are around it, so that it is what the verifier gets. -/
theorem bearerToken?_exact :
    (∀ headers token, bearerToken? headers = some token ↔
      ∃ value, headers.IsFirst .authorization value ∧ Bears value token) ∧
    (∀ value token other, Bears value token → Bears value other → token = other) ∧
    (∀ (headers others : Headers) value, headers.IsFirst .authorization value →
      others.IsFirst .authorization value → bearerToken? others = bearerToken? headers) ∧
    ∀ (issuer : Issuer) token before after, issuer.Gives token → IsGap before → IsGap after →
      ∃ value : FieldValue, value.bytes = Text.utf8 ("Bearer " ++ before ++ token ++ after) ∧
        ∀ headers : Headers, headers.IsFirst .authorization value →
          bearerToken? headers = some token ∧
          ∀ verifier now, authenticate verifier now headers =
            match verifier.verifyAt token now with
            | .ok payload => .ok ⟨payload.userId, payload.username⟩
            | .error _ => .error .invalidToken := by
  refine ⟨fun headers token => bearerToken?_eq_some_iff, fun value token other => Bears.unique,
    fun headers others value => bearerToken?_congr, ?_⟩
  intro issuer token before after hgives hbefore hafter
  obtain ⟨value, hbytes, hbears⟩ := hgives.exists_bears hbefore hafter
  refine ⟨value, hbytes, fun headers hfirst => ?_⟩
  have htoken := bearerToken?_eq_some_iff.2 ⟨value, hfirst, hbears⟩
  refine ⟨htoken, fun verifier now => ?_⟩
  cases hverified : verifier.verifyAt token now with
  | ok payload => exact authenticate_of_accepted htoken hverified
  | error reason => exact authenticate_of_refused htoken hverified

/-- A token with blanks around it and inside, before another field; and one that is given out. -/
theorem bearerToken?_exact_spaced :
    let padded : FieldValue := .ofPlain "Bearer \t a  b\t"
    let issuer : Issuer := ⟨.hs256 (Text.utf8 "secret"), 1⟩
    bearerToken? ⟨[(.host, .ofPlain "gw"), (.authorization, padded),
        (.authorization, .ofPlain "Bearer c")]⟩ = some "a  b" ∧
      ∃ token value, issuer.issueAt 7 "Zoë" 0 = .ok token ∧
        value.bytes = Text.utf8 ("Bearer " ++ " " ++ token ++ "\t") ∧
        bearerToken? ⟨[(.authorization, value)]⟩ = some token := by
  intro padded issuer
  obtain ⟨hfound, -, -, hissues⟩ := bearerToken?_exact
  constructor
  · have hvisible : padded.bytes.all FieldValue.isPlainByte = true := by decide +kernel
    have hwritten : padded.bytes = Text.utf8 ("Bearer " ++ "\t " ++ "a  b" ++ "\t") := by decide +kernel
    have htrimmed : Text.IsTrimmed Text.isBlank "a  b".toList := by
      have hends : "a  b".toList.head? = some 'a' ∧ "a  b".toList.getLast? = some 'b' := by decide
      constructor
      · rw [hends.1]
        rintro _ ⟨⟩
        rfl
      · rw [hends.2]
        rintro _ ⟨⟩
        rfl
    have hbears : Bears padded "a  b" :=
      ⟨hvisible, ⟨"\t ", "\t", by decide, by decide, hwritten⟩, by decide, htrimmed⟩
    exact (hfound _ _).2 ⟨padded, ⟨[(.host, .ofPlain "gw")], _, rfl, by decide⟩, hbears⟩
  · let payload : Payload := { userId := 7, username := "Zoë", iat := 0, exp := 3600 }
    have hpayload : issuer.payloadAt 7 "Zoë" 0 = .ok payload :=
      Issuer.payloadAt_eq issuer (by decide) (by decide) (by decide) (by decide) (by decide)
    have hsigns : issuer.keys.SignsAll := fun _ text => by
      obtain ⟨signature, hsigned, -⟩ := KeySet.fits_hs256 (Text.utf8 "secret") text
      exact ⟨signature, hsigned⟩
    obtain ⟨token, htoken⟩ := hsigns.exists_tokenOf rfl payload
    have hissued : issuer.issueAt 7 "Zoë" 0 = .ok token :=
      bind_eq_ok_iff.2 ⟨payload, hpayload, htoken⟩
    obtain ⟨value, hbytes, hheaders⟩ :=
      hissues issuer token " " "\t" (.user hissued) (by decide) (by decide)
    exact ⟨token, value, hissued, hbytes, (hheaders _ (Headers.isFirst_singleton _ value)).1⟩

end Gatehouse.Token
