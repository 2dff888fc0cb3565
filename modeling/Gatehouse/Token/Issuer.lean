import Gatehouse.Token.Header
import Gatehouse.Token.KeySet

/-!
# Issuing tokens

A token is a header, a payload and a signature of both, each in base 64, with dots between them. An
`Issuer` gives tokens to users for a fixed number of hours. What is asked for is checked in the order
user, name, hours, expiry, and only then is anything signed.
-/

namespace Gatehouse.Token

open Config (Jwt)
open Crypto (Base64.encode Base64.urlSafe)
open Files (FileSystem)

/-- A part of a token that holds a text. -/
def encodePart (text : String) : List Char := Base64.encode Base64.urlSafe (Text.utf8 text)

/-- What is signed for a payload: the encoded header and payload. -/
def signedText (algorithm : Algorithm) (payload : Payload) : List Char :=
  encodePart (Header.issued algorithm).compact ++ '.' :: encodePart payload.text

def KeySet.tokenOf (keys : KeySet) (payload : Payload) : Except TokenError String :=
  let text := signedText keys.algorithm payload
  (keys.sign text).map fun signature => String.ofList (text ++ '.' :: signature)

def secondsPerHour : Int := 3600

/-- The seconds of some hours, if there are any and a signed word holds their number. -/
def lifetime? (hours : Int64) : Option Int64 :=
  (Number.toInt64? (hours.toInt * secondsPerHour)).filter (0 < ·)

/-- Issues tokens that expire after a number of hours. -/
structure Issuer where
  keys : KeySet
  expiryHours : Int64
deriving DecidableEq, Repr

namespace Issuer

def ofSettings (files : FileSystem) (jwt : Jwt) : Except KeyError Issuer :=
  (KeySet.ofSettings files jwt).map fun keys => ⟨keys, jwt.expiryHours⟩

/-- The payload of a token for a user at a time, in seconds. -/
def payloadAt (issuer : Issuer) (userId : Int64) (username : String) (issuedAt : Int64) :
    Except TokenError Payload :=
  if userId ≤ 0 then .error (.invalidInput .userId)
  else if Text.blank username then .error (.invalidInput .username)
  else
    match lifetime? issuer.expiryHours with
    | none => .error (.invalidInput .expiryHours)
    | some lifetime =>
      match Payload.create? userId username issuedAt lifetime with
      | none => .error (.invalidInput .overflow)
      | some payload => .ok payload

/-- Issue a token for a user at a time, in seconds. -/
def issueAt (issuer : Issuer) (userId : Int64) (username : String) (issuedAt : Int64) :
    Except TokenError String :=
  (issuer.payloadAt userId username issuedAt).bind issuer.keys.tokenOf

end Issuer

end Gatehouse.Token
