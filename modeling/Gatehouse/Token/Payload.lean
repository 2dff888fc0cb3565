import Gatehouse.Json.Printer
import Gatehouse.Number.Decimal
import Gatehouse.Text.Blank
import Gatehouse.Token.Claim

/-!
# Payloads

What a token says: whom it names, when it was issued and when it expires, and whatever else its text
holds. `Payload.read` takes the text of a payload apart, `Payload.toJson` writes it; the four claims
come first and the others follow by name.
-/

namespace Gatehouse.Token

/-- The claims of a token. -/
structure Payload where
  userId : Int64
  username : String
  /-- When the token was issued, in seconds. -/
  iat : Int64
  /-- When the token expires, in seconds. -/
  exp : Int64
  /-- All other claims, by name. -/
  extra : List (String × Json) := []
deriving Repr

/-- The claims that no token lacks. -/
def requiredClaims : List String := ["user_id", "username", "iat", "exp"]

/-- What is wrong with the identity in a payload. -/
inductive IdentityProblem where
  | userId
  | username
deriving DecidableEq, Repr

def IdentityProblem.message : IdentityProblem → String
  | .userId => "user_id must be a positive integer"
  | .username => "username must be a non-empty string"

/-- The nearest number that a signed word of 64 bits holds. -/
def saturate (n : Int) : Int := max Int64.minValue.toInt (min n Int64.maxValue.toInt)

/-- The claims that were read so far. -/
structure Draft where
  userId : Option Int64 := none
  username : Option String := none
  iat : Option Int64 := none
  exp : Option Int64 := none
  /-- The other claims, in the order of the text. -/
  others : List (String × Json) := []
deriving Repr

namespace Draft

/-- Whether a claim that may occur once was read. -/
def has (draft : Draft) (name : String) : Bool :=
  (name = "user_id" && draft.userId.isSome) || (name = "username" && draft.username.isSome) ||
    (name = "iat" && draft.iat.isSome) || (name = "exp" && draft.exp.isSome)

def add (draft : Draft) (name : String) (value : Json) : Except ClaimProblem Draft :=
  if name = "user_id" then
    (readOnce name draft.userId (Json.int64? value)).map fun n => { draft with userId := some n }
  else if name = "username" then
    (readOnce name draft.username (Json.text? value)).map fun s => { draft with username := some s }
  else if name = "iat" then
    (readOnce name draft.iat (Json.int64? value)).map fun n => { draft with iat := some n }
  else if name = "exp" then
    (readOnce name draft.exp (Json.int64? value)).map fun n => { draft with exp := some n }
  else if isKept value then .ok { draft with others := draft.others ++ [(name, value)] }
  else .error .malformed

def addAll (draft : Draft) : List (String × Json) → Except ClaimProblem Draft
  | [] => .ok draft
  | (name, value) :: members => (draft.add name value).bind fun next => next.addAll members

/-- The payload of the claims, the first missing one told. -/
def payload (draft : Draft) : Except ClaimProblem Payload := do
  let userId ← required "user_id" draft.userId
  let username ← required "username" draft.username
  let iat ← required "iat" draft.iat
  let exp ← required "exp" draft.exp
  pure ⟨userId, username, iat, exp, Json.sortMembers (Json.canonicalMembers draft.others)⟩

end Draft

namespace Payload

/-- A payload issued at a time for a number of seconds, none when it would expire after the last
second there is. -/
def create? (userId : Int64) (username : String) (issuedAt lifetime : Int64) : Option Payload :=
  (Number.toInt64? (issuedAt.toInt + lifetime.toInt)).map fun exp =>
    { userId, username, iat := issuedAt, exp }

/-- The payload of an object. A text that goes wrong does so only where it is read. -/
def ofOpening (opening : Json.Opening) : Except ClaimProblem Payload := do
  let draft ← ({} : Draft).addAll opening.members
  match opening.ending with
  | .closed rest =>
    let payload ← draft.payload
    if Json.skipSpace rest = [] then pure payload else throw .malformed
  | .named name => throw (if draft.has name then .duplicate name else .malformed)
  | .broken => throw .malformed

def read (text : String) : Except ClaimProblem Payload :=
  match Json.Opening.ofText? text.toList with
  | some opening => ofOpening opening
  | none => .error .malformed

def toJson (payload : Payload) : Json :=
  .obj ([("user_id", .int payload.userId.toInt), ("username", .str payload.username),
    ("iat", .int payload.iat.toInt), ("exp", .int payload.exp.toInt)] ++ payload.extra)

def text (payload : Payload) : String := payload.toJson.compact

/-- What is wrong with the identity, if anything. -/
def identityProblem? (payload : Payload) : Option IdentityProblem :=
  if payload.userId ≤ 0 then some .userId
  else if Text.blank payload.username then some .username
  else none

/-- Whether a token is past its expiry by more than the leeway. Sums beyond the last second count as
the last second. -/
def isExpiredAt (payload : Payload) (now : Int64) (leeway : UInt64) : Bool :=
  saturate (payload.exp.toInt + saturate leeway.toNat) < now.toInt

end Payload

end Gatehouse.Token
