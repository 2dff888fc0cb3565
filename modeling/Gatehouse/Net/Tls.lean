import Gatehouse.Config.Settings
import Gatehouse.Crypto.Pem
import Gatehouse.Crypto.Rsa
import Gatehouse.Files.FileSystem
import Gatehouse.Url.Address

/-!
# Certificates and keys of a listener

A listener ends TLS with a chain of certificates and the one private key that belongs to the first of
them. Both come in files of text sections. `Tls.check` looks for the files first, the certificate
before the key, and then at what they hold. Keys are RSA keys.
-/

namespace Gatehouse.Net.Tls

open Config (TlsFiles)
open Files (FileError FileSystem)

/-- Why a listener cannot end TLS. -/
inductive TlsError where
  /-- Nothing is at the path of a file. -/
  | missing (what path : String)
  | unreadable (reason : FileError)
  /-- A section of the certificates is not well formed. -/
  | malformed
  /-- There is no certificate, not exactly one key, or the two do not belong together. -/
  | unusable
deriving DecidableEq, Repr

def TlsError.message : TlsError → String
  | .missing what path => what ++ " file not found: " ++ path
  | .unreadable reason => reason.message
  | .malformed => "the certificates cannot be read"
  | .unusable => "the certificates and the key cannot be used together"

/-- A section of a file: its label and what its text stands for. -/
structure Section where
  label : String
  bytes : Bytes
deriving DecidableEq, Repr

/-- The label of a line that opens a section; inside, none when the line does not end as it should. -/
def opening? (line : List Char) : Option (Option (List Char)) :=
  let mark := "-----BEGIN ".toList
  if mark.isPrefixOf line then
    let label := Text.dropEndWhile (· = '-') line
    some (if line.length - label.length = 5 then some (label.drop mark.length) else none)
  else none

/-- The bytes of the lines of a section. -/
def sectionBytes? (data : List Char) : Option Bytes :=
  Crypto.Base64.decodePadded? Crypto.Base64.standard (data.filter fun c => !Crypto.Pem.isSpace c)

/-- The sections in some lines; `current` is the section that is open, with what was read of it. -/
def sectionsOf? (current : Option (List Char × List Char)) : List (List Char) → Option (List Section)
  | [] => if current.isNone then some [] else none
  | line :: lines =>
    match opening? line with
    | some none => none
    | some (some label) => sectionsOf? (some (label, [])) lines
    | none =>
      match current with
      | none => sectionsOf? none lines
      | some (label, data) =>
        if ("-----END ".toList ++ label ++ "-----".toList).isPrefixOf line then do
          let bytes ← sectionBytes? data
          let others ← sectionsOf? none lines
          pure (⟨String.ofList label, bytes⟩ :: others)
        else sectionsOf? (some (label, data ++ line)) lines

def sections? (bytes : Bytes) : Option (List Section) :=
  let lines := Url.splitAt '\n' (Text.ofAscii bytes).toList
  sectionsOf? none (lines.map (Text.dropEndWhile fun c => c = '\r' || c = ' '))

def certificateKey? (bytes : Bytes) : Option Crypto.Rsa.PublicKey := do
  let blocks ← Crypto.Der.parse? bytes
  let key ← Crypto.Der.firstStringOf? blocks
  Crypto.Rsa.PublicKey.ofDer? key

def privateKey? (s : Section) : Option Crypto.Rsa.PrivateKey :=
  if s.label = "RSA PRIVATE KEY" then Crypto.Rsa.PrivateKey.ofDer? s.bytes
  else do
    let blocks ← Crypto.Der.parse? s.bytes
    let key ← Crypto.Der.firstStringOf? blocks
    Crypto.Rsa.PrivateKey.ofDer? key

/-- Whether a section holds a private key of any kind. -/
def isPrivateKey (s : Section) : Bool :=
  s.label = "PRIVATE KEY" || s.label = "RSA PRIVATE KEY" || s.label = "EC PRIVATE KEY"

/-- Check that certificates and a key belong together. -/
def checkMaterial (certificates keys : Bytes) : Except TlsError Unit :=
  match sections? certificates with
  | none => .error .malformed
  | some chain =>
    let keySections := ((sections? keys).getD []).filter isPrivateKey
    match chain.filter fun s => s.label = "CERTIFICATE", keySections with
    | certificate :: _, [keySection] =>
      match certificateKey? certificate.bytes, privateKey? keySection with
      | some publicKey, some key => if key.toPublic = publicKey then .ok () else .error .unusable
      | _, _ => .error .unusable
    | _, _ => .error .unusable

/-- Check that a file is there. -/
def find (files : FileSystem) (what path : String) : Except TlsError Unit :=
  if files.exists? path then .ok () else .error (.missing what path)

def readFile (files : FileSystem) (path : String) : Except TlsError Bytes :=
  (files.read path).mapError .unreadable

def check (files : FileSystem) (tls : TlsFiles) : Except TlsError Unit := do
  find files "Certificate" tls.certPath
  find files "Private key" tls.keyPath
  let certificates ← readFile files tls.certPath
  let keys ← readFile files tls.keyPath
  checkMaterial certificates keys

end Gatehouse.Net.Tls
