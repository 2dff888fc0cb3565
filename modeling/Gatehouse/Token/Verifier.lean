import Gatehouse.Token.Header
import Gatehouse.Token.KeySet

/-!
# Verifying tokens

A verifier accepts the algorithms on its list and no others. It looks at a token in a fixed order:
the list itself, the header, the signature, and only then the payload, its expiry and the identity in
it. Nothing of a payload is read before its signature is known to be valid.
-/

namespace Gatehouse.Token

open Config (Jwt)
open Crypto (Base64.decode? Base64.urlSafe)
open Files (FileSystem)

/-- What stands before and after the last occurrence of a character. -/
def splitLast? (c : Char) : List Char → Option (List Char × List Char)
  | [] => none
  | a :: rest =>
    match splitLast? c rest with
    | some (before, after) => some (a :: before, after)
    | none => if a = c then some ([], rest) else none

/-- The parts of a token, each still encoded. -/
structure Parts where
  header : List Char
  payload : List Char
  signature : List Char
deriving DecidableEq, Repr

namespace Parts

/-- The parts between the last two dots of a token and around them. -/
def ofToken? (token : String) : Option Parts := do
  let (signed, signature) ← splitLast? '.' token.toList
  let (header, payload) ← splitLast? '.' signed
  pure ⟨header, payload, signature⟩

/-- What the signature is for. -/
def signed (parts : Parts) : List Char := parts.header ++ '.' :: parts.payload

end Parts

def decodePart (part : List Char) : Except TokenError Bytes :=
  match Base64.decode? Base64.urlSafe part with
  | some bytes => .ok bytes
  | none => .error .malformed

/-- Read the text that bytes stand for. Where they stop being one the text breaks off, so that a problem
before that is told first. -/
def readText {α : Type} (read : String → Except ClaimProblem α) (bytes : Bytes) :
    Except TokenError α :=
  match Text.splitText bytes with
  | (text, []) => (read text).mapError .claims
  | (text, _ :: _) =>
    match read text with
    | .ok _ => .error (.claims .malformed)
    | .error problem => .error (.claims problem)

/-- The claims besides the expiry that have a fixed meaning. -/
def registeredClaims : List String := ["nbf", "sub", "iss", "aud"]

/-- Whether a value of a registered claim leaves the claims after it readable. It need not have the
right type. -/
def isReadable (name : String) : Json → Bool
  | .arr items => name = "iss" || name = "aud" || (name = "nbf" && items.isEmpty)
  | .obj members => name = "iss" || name = "aud" || (name = "nbf" && members.isEmpty)
  | _ => true

/-- Check the registered claims among the members of a payload. -/
def checkRegistered : List (String × Json) → Except ClaimProblem Unit :=
  checkMembers (registeredClaims.map fun name => (name, isReadable name)) []

def readClaims (text : String) : Except ClaimProblem Payload :=
  match Json.Opening.ofText? text.toList with
  | none => .error .malformed
  | some opening => do
    let payload ← Payload.ofOpening opening
    checkRegistered opening.members
    if payload.exp < 0 then throw .noExpiry else pure payload

/-- Verifies tokens with the keys of one algorithm. -/
structure Verifier where
  keys : KeySet
  /-- The algorithms that a header may name. -/
  allowed : List Algorithm
  /-- How many seconds a token is accepted after its expiry. -/
  leeway : UInt64 := 30
deriving DecidableEq, Repr

namespace Verifier

/-- The verifier that accepts the algorithm of its keys. -/
def ofKeys (keys : KeySet) : Verifier := { keys, allowed := [keys.algorithm] }

def ofSettings (files : FileSystem) (jwt : Jwt) : Except KeyError Verifier :=
  (KeySet.ofSettings files jwt).map fun keys => { ofKeys keys with leeway := jwt.leewaySecs }

/-- Whether anything can be accepted: the list names the algorithm of the keys and no other. -/
def isOpen (verifier : Verifier) : Bool :=
  !verifier.allowed.isEmpty && verifier.allowed.all (· = verifier.keys.algorithm)

/-- The encoded payload of a token with a valid signature. -/
def signedPayload (verifier : Verifier) (token : String) : Except TokenError (List Char) :=
  if !verifier.isOpen then .error .algorithm
  else
    match Parts.ofToken? token with
    | none => .error .malformed
    | some parts => do
      let bytes ← decodePart parts.header
      let header ← (Header.read bytes).mapError .claims
      if verifier.allowed.any fun a => a.name = header.algorithm then
        verifier.keys.check parts.signed parts.signature
        pure parts.payload
      else throw .algorithm

/-- The claims of a token with a valid signature. -/
def claims (verifier : Verifier) (token : String) : Except TokenError Payload := do
  let part ← verifier.signedPayload token
  let bytes ← decodePart part
  readText readClaims bytes

/-- Verify a token at a time, in seconds. -/
def verifyAt (verifier : Verifier) (token : String) (now : Int64) : Except TokenError Payload := do
  let payload ← verifier.claims token
  if payload.isExpiredAt now verifier.leeway then throw .expired
  match payload.identityProblem? with
  | some problem => throw (.invalidClaim problem)
  | none => pure payload

end Verifier

end Gatehouse.Token
