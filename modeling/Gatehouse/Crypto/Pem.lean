import Gatehouse.Crypto.Base64
import Gatehouse.Crypto.Der
import Gatehouse.Text.Blank

/-!
# Keys in text form

A key stands in base 64 between a line that opens with a label and one that closes with the same
label. RSA keys come under four labels, and certificates hold one too. What is kept is the encoded
key itself.
-/

namespace Gatehouse.Crypto.Pem

/-- The text before and after the first occurrence of a mark. -/
def splitOn? (mark : List Char) : List Char → Option (List Char × List Char)
  | [] => if mark = [] then some ([], []) else none
  | c :: cs =>
    if mark.isPrefixOf (c :: cs) then some ([], (c :: cs).drop mark.length)
    else (splitOn? mark cs).map fun (before, after) => (c :: before, after)

def isSpace (c : Char) : Bool := c = ' ' || c = '\t' || c = '\n' || c = '\r'

/-- The text under the header lines, which end with an empty line. Every header has a colon. -/
def payload? (body : List Char) : Option (List Char) :=
  let split := (splitOn? ['\n', '\n'] body).or (splitOn? ['\r', '\n', '\r', '\n'] body)
  match split with
  | none => some body
  | some (headers, data) =>
    let lines := (headers.splitBy fun a _ => a ≠ '\n').filter fun line => line.any (· ≠ '\n')
    if lines.all fun line => line.contains ':' then some data else none

/-- The label and the bytes of the first block of a text. -/
def block? (text : String) : Option (String × Bytes) := do
  let (_, rest) ← splitOn? "-----BEGIN ".toList text.toList
  let (label, rest) ← splitOn? "-----".toList rest
  let (body, rest) ← splitOn? "-----END ".toList (rest.dropWhile isSpace)
  let (closing, _) ← splitOn? "-----".toList rest
  if label = [] ∨ label ≠ closing then none
  else
    let data ← payload? body
    let bytes ← Base64.decodePadded? Base64.standard (data.filter fun c => !Text.isBlank c)
    pure (String.ofList label, bytes)

def rsaId : Bytes := [0x2A, 0x86, 0x48, 0x86, 0xF7, 0x0D, 0x01, 0x01, 0x01]

/-- The identifiers of the kinds of keys: elliptic curves, RSA, and one Edwards curve. -/
def keyIds : List Bytes :=
  [[0x2A, 0x86, 0x48, 0xCE, 0x3D, 0x02, 0x01], rsaId, [0x2B, 0x65, 0x70]]

/-- The encoded RSA key of a text, public or private. -/
def rsaKey? (text : String) : Option Bytes := do
  let (label, bytes) ← block? text
  let blocks ← Der.parse? bytes
  if label = "RSA PRIVATE KEY" ∨ label = "RSA PUBLIC KEY" then some bytes
  else if label = "PRIVATE KEY" ∨ label = "PUBLIC KEY" ∨ label = "CERTIFICATE" then
    if Der.firstIdOf? keyIds blocks = some rsaId then Der.firstStringOf? blocks else none
  else none

end Gatehouse.Crypto.Pem
