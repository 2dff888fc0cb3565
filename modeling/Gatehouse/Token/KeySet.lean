import Gatehouse.Config.Settings
import Gatehouse.Crypto.Base64
import Gatehouse.Crypto.Hmac
import Gatehouse.Crypto.Pem
import Gatehouse.Crypto.Rsa
import Gatehouse.Files.FileSystem
import Gatehouse.Token.Error

/-!
# Key sets

The keys of one algorithm: a secret that signs and verifies, or an RSA key that verifies, with or
without one that signs. `KeySet.ofSettings` finds them where the settings say; a key that is given
but cannot be used is an error, never a key set without it.
-/

namespace Gatehouse.Token

open Config (Jwt)
open Crypto (Base64.encode Base64.decode? Base64.urlSafe)
open Files (FileError FileSystem)

inductive KeyRole where
  | secret
  | publicKey
  | privateKey
deriving DecidableEq, Repr

def KeyRole.text : KeyRole → String
  | .secret => "JWT secret"
  | .publicKey => "RSA public key"
  | .privateKey => "RSA private key"

/-- Why there is no key set. -/
inductive KeyError where
  | missing (role : KeyRole)
  | read (role : KeyRole) (path : String) (reason : FileError)
  | invalidPem (role : KeyRole)
  | unsupportedAlgorithm (name : String)
deriving DecidableEq, Repr

def KeyError.message : KeyError → String
  | .missing role => "no " ++ role.text ++ " configured"
  | .read role path reason =>
    "failed to read " ++ role.text ++ " from " ++ path ++ ": " ++ reason.message
  | .invalidPem role => role.text ++ " is not a valid PEM key: InvalidKeyFormat"
  | .unsupportedAlgorithm name =>
    "unsupported signing algorithm " ++ Text.quoted name ++ " (expected HS256 or RS256)"

def Algorithm.named (name : String) : Except KeyError Algorithm :=
  match Algorithm.ofName? name with
  | some algorithm => .ok algorithm
  | none => .error (.unsupportedAlgorithm name)

/-- The text of a key: what is written in place unless that is blank, else what the file holds. -/
def loadPem (files : FileSystem) (written path : Option String) (role : KeyRole) :
    Except KeyError String :=
  match (written.map Text.trim).filter (· ≠ ""), path with
  | some text, _ => .ok text
  | none, some path =>
    match files.readText path with
    | .ok text => .ok text
    | .error reason => .error (.read role path reason)
  | none, none => .error (.missing role)

/-- The RSA key that a text holds. -/
def rsaKey (role : KeyRole) (text : String) : Except KeyError Bytes :=
  match Crypto.Pem.rsaKey? text with
  | some key => .ok key
  | none => .error (.invalidPem role)

/-- The keys of one algorithm. RSA keys are kept as they are encoded. -/
inductive KeySet where
  | hs256 (secret : Bytes)
  | rs256 (verification : Bytes) (signing : Option Bytes)
deriving DecidableEq, Repr

namespace KeySet

/-- Keys that sign and verify with RSA. The private key is looked at first. -/
def rs256Pair (privateText publicText : String) : Except KeyError KeySet := do
  let signing ← rsaKey .privateKey privateText
  let verification ← rsaKey .publicKey publicText
  pure (.rs256 verification (some signing))

/-- A key that verifies with RSA. -/
def rs256Verifier (publicText : String) : Except KeyError KeySet :=
  (rsaKey .publicKey publicText).map fun verification => .rs256 verification none

/-- The key set of the settings. Without a private key the set of RS256 only verifies. -/
def ofSettings (files : FileSystem) (jwt : Jwt) : Except KeyError KeySet :=
  match jwt.algorithm with
  | .hs256 =>
    if Text.blank jwt.secret then .error (.missing .secret)
    else .ok (.hs256 (Text.utf8 jwt.secret))
  | .rs256 => do
    let publicText ← loadPem files jwt.publicKey jwt.publicKeyPath .publicKey
    match loadPem files jwt.privateKey jwt.privateKeyPath .privateKey with
    | .ok privateText => rs256Pair privateText publicText
    | .error (.missing _) => rs256Verifier publicText
    | .error e => .error e

def algorithm : KeySet → Algorithm
  | .hs256 _ => .hs256
  | .rs256 .. => .rs256

def canSign : KeySet → Bool
  | .hs256 _ => true
  | .rs256 _ signing => signing.isSome

/-- A key set as it is shown in logs: nothing of the keys is part of it. -/
def shown (keys : KeySet) : String :=
  "KeySet \x7b algorithm: " ++ keys.algorithm.label ++ ", can_sign: " ++
    (if keys.canSign then "true" else "false") ++ ", .. \x7d"

/-- The signature of a text, in base 64. -/
def sign (keys : KeySet) (text : List Char) : Except TokenError (List Char) :=
  let message := Text.utf8 (String.ofList text)
  match keys with
  | .hs256 secret => .ok (Base64.encode Base64.urlSafe (Crypto.hmac secret message))
  | .rs256 _ none => .error .signingKeyUnavailable
  | .rs256 _ (some key) =>
    match (Crypto.Rsa.PrivateKey.ofDer? key).bind (·.sign? message) with
    | some signature => .ok (Base64.encode Base64.urlSafe signature)
    | none => .error .signing

/-- Check a signature of a text. A signature of HS256 has to be the written form itself; one of RS256
is decoded. -/
def check (keys : KeySet) (text signature : List Char) : Except TokenError Unit :=
  let message := Text.utf8 (String.ofList text)
  match keys with
  | .hs256 secret =>
    if signature = Base64.encode Base64.urlSafe (Crypto.hmac secret message) then .ok ()
    else .error .signature
  | .rs256 key _ =>
    match Base64.decode? Base64.urlSafe signature with
    | none => .error .malformed
    | some bytes =>
      match Crypto.Rsa.PublicKey.ofDer? key with
      | none => .error .signature
      | some key => if key.verifies message bytes then .ok () else .error .signature

end KeySet

end Gatehouse.Token
