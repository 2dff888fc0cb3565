import Gatehouse.Proofs.Crypto.Base64
import Gatehouse.Proofs.Json.RoundTrip
import Gatehouse.Proofs.Token.Headers
import Gatehouse.Token.Issuer
import Gatehouse.Token.Verifier

/-!
# The parts of a token and their texts

A token falls apart at its dots into the parts that it was made of, and each part is decoded to the text
that was encoded. The header that tokens are issued with names its algorithm, and a payload without
further claims is read back as it is.
-/

namespace Gatehouse.Token

open Crypto (Base64.decode?_encode Base64.dot_not_mem_encode)

/-! ## Parts -/

/-- The last occurrence of a character is the one that does not occur again. -/
theorem splitLast?_append {c : Char} {after : List Char} (hafter : c ∉ after)
    (before : List Char) : splitLast? c (before ++ c :: after) = some (before, after) := by
  have hnone : splitLast? c after = none := by
    induction after with
    | nil => rfl
    | cons a after ih =>
        obtain ⟨hne, hafter⟩ := not_or.1 (mt List.mem_cons.2 hafter)
        rw [splitLast?, ih hafter]
        exact if_neg fun h => hne h.symm
  induction before with
  | nil =>
      rw [List.nil_append, splitLast?, hnone]
      exact if_pos rfl
  | cons a before ih => rw [List.cons_append, splitLast?, ih]

/-- A token is taken apart at its last two dots. -/
theorem Parts.ofToken?_ofList (header : List Char) {payload signature : List Char}
    (hpayload : '.' ∉ payload) (hsignature : '.' ∉ signature) :
    Parts.ofToken? (String.ofList ((header ++ '.' :: payload) ++ '.' :: signature)) =
      some ⟨header, payload, signature⟩ := by
  rw [Parts.ofToken?, String.toList_ofList, splitLast?_append hsignature]
  change (splitLast? '.' (header ++ '.' :: payload)).bind _ = _
  rw [splitLast?_append hpayload]
  rfl

theorem dot_not_mem_encodePart (text : String) : '.' ∉ encodePart text :=
  Base64.dot_not_mem_encode (Text.utf8 text)

theorem decodePart_encodePart (text : String) : decodePart (encodePart text) = .ok (Text.utf8 text) := by
  rw [decodePart, encodePart, Base64.decode?_encode]

theorem readText_utf8 {α : Type} (read : String → Except ClaimProblem α) (text : String) :
    readText read (Text.utf8 text) = (read text).mapError .claims := by
  rw [readText, Text.splitText_utf8]

/-! ## Headers -/

/-- The header of an issued token names the algorithm. -/
theorem Header.read_issued (algorithm : Algorithm) :
    Header.read (Text.utf8 (Header.issued algorithm).compact) = .ok ⟨algorithm.name⟩ := by
  have hobject : Json.parse? (Header.issued algorithm).compact =
      some (.obj [("typ", .str "JWT"), ("alg", .str algorithm.name)]) := Json.parse?_compact rfl
  refine Header.read_eq_ok_iff.2 ⟨_, Header.hasMembers_of_parse? hobject, Header.names_iff.2 ?_⟩
  cases algorithm with
  | hs256 => exact ⟨_, rfl⟩
  | rs256 => exact ⟨_, rfl⟩

/-! ## Payloads -/

/-- The members of a payload without further claims. -/
def Payload.fixedMembers (payload : Payload) : List (String × Json) :=
  [("user_id", .int payload.userId.toInt), ("username", .str payload.username),
    ("iat", .int payload.iat.toInt), ("exp", .int payload.exp.toInt)]

theorem Payload.haveWhole_fixedMembers (payload : Payload) :
    Json.haveWhole payload.fixedMembers = true := by
  simp only [Payload.fixedMembers, Json.haveWhole, Json.isWhole_int64]
  rfl

/-- Four claims make a payload. -/
theorem Payload.ofOpening_fixedMembers {payload : Payload} (hextra : payload.extra = []) :
    Payload.ofOpening ⟨payload.fixedMembers, .closed []⟩ = .ok payload := by
  have hdraft : ({} : Draft).addAll payload.fixedMembers =
      .ok ⟨some payload.userId, some payload.username, some payload.iat, some payload.exp, []⟩ := by
    simp [Payload.fixedMembers, Draft.addAll, Draft.add, readOnce, Json.int64?, Json.text?, Except.map,
      Except.bind]
  obtain ⟨userId, username, iat, exp, extra⟩ := payload
  cases hextra
  rw [Payload.ofOpening, hdraft]
  rfl

/-- None of the four claims is a registered one that is looked at. -/
theorem Payload.checkRegistered_fixedMembers (payload : Payload) :
    checkRegistered payload.fixedMembers = .ok () := rfl

/-- The text of a payload without further claims is an object of its four members. -/
theorem Payload.ofText?_text {payload : Payload} (hextra : payload.extra = []) :
    Json.Opening.ofText? payload.text.toList = some ⟨payload.fixedMembers, .closed []⟩ := by
  have hmembers : payload.toJson = .obj payload.fixedMembers := by
    rw [Payload.toJson, hextra, List.append_nil, Payload.fixedMembers]
  rw [Payload.text, Json.compact, String.toList_ofList, hmembers,
    Json.ofText?_print payload.haveWhole_fixedMembers]

/-- A payload without further claims is read back, whenever it expires. -/
theorem Payload.read_text {payload : Payload} (hextra : payload.extra = []) :
    Payload.read payload.text = .ok payload := by
  rw [Payload.read, Payload.ofText?_text hextra]
  exact Payload.ofOpening_fixedMembers hextra

/-- A payload without further claims that expires after the epoch is accepted as well. -/
theorem readClaims_text {payload : Payload} (hextra : payload.extra = []) (hexp : 0 ≤ payload.exp) :
    readClaims payload.text = .ok payload := by
  rw [readClaims, Payload.ofText?_text hextra]
  dsimp only
  rw [Payload.ofOpening_fixedMembers hextra, Payload.checkRegistered_fixedMembers]
  exact if_neg (Int64.not_lt.2 hexp)

end Gatehouse.Token
