import Gatehouse.Crypto.Der
import Gatehouse.Crypto.Sha256

/-!
# RSA signatures

Signatures by PKCS #1 v1.5 over SHA-256. The digest is padded to the length of the modulus and raised
to an exponent: the private one to sign, the public one to check.
-/

namespace Gatehouse.Crypto.Rsa

/-- `b ^ e % m`, with at most `fuel` binary digits in `e`. -/
def powMod (m : Nat) : Nat → Nat → Nat → Nat
  | 0, _, _ => 1 % m
  | fuel + 1, b, e =>
    if e = 0 then 1 % m
    else
      let half := powMod m fuel (b * b % m) (e / 2)
      if e % 2 = 1 then b * half % m else half

def bitLength (n : Nat) : Nat := if n = 0 then 0 else n.log2 + 1

/-- `b ^ e % m`. -/
def power (m b e : Nat) : Nat := powMod m (bitLength e) (b % m) e

def byteLength (n : Nat) : Nat := (bitLength n + 7) / 8

/-- What stands before a SHA-256 digest in a signature. -/
def digestMark : Bytes :=
  [0x30, 0x31, 0x30, 0x0D, 0x06, 0x09, 0x60, 0x86, 0x48, 0x01, 0x65, 0x03, 0x04, 0x02, 0x01, 0x05,
    0x00, 0x04, 0x20]

/-- The padded digest of a message, in `size` bytes. -/
def paddedDigest (size : Nat) (message : Bytes) : Bytes :=
  let tail := digestMark ++ Sha256.digest message
  0x00 :: 0x01 :: List.replicate (size - 3 - tail.length) 0xFF ++ 0x00 :: tail

structure PublicKey where
  modulus : Nat
  exponent : Nat
deriving DecidableEq, Repr

structure PrivateKey where
  toPublic : PublicKey
  exponent : Nat
deriving DecidableEq, Repr

/-- Read a public key of 2048 to 8192 bits with an odd exponent of at most 33 bits. -/
def PublicKey.ofDer? (bytes : Bytes) : Option PublicKey :=
  match Der.integers? bytes with
  | some [n, e] =>
    if n % 2 = 1 ∧ 2048 ≤ bitLength n ∧ bitLength n ≤ 8192 ∧ e % 2 = 1 ∧ 3 ≤ e ∧
        bitLength e ≤ 33 then
      some ⟨n, e⟩
    else none
  | _ => none

/-- Read a private key of 2048 to 4096 bits with two prime factors and a public exponent of at least
65537. -/
def PrivateKey.ofDer? (bytes : Bytes) : Option PrivateKey :=
  match Der.integers? bytes with
  | some [0, n, e, d, p, q, _, _, _] =>
    if p * q = n ∧ 2048 ≤ bitLength n ∧ bitLength n ≤ 4096 ∧ e % 2 = 1 ∧ 65537 ≤ e ∧
        bitLength e ≤ 33 then
      some ⟨⟨n, e⟩, d⟩
    else none
  | _ => none

def PublicKey.verifies (key : PublicKey) (message signature : Bytes) : Bool :=
  let size := byteLength key.modulus
  let s := Der.ofBigEndian signature
  signature.length = size && s < key.modulus &&
    Sha256.bigEndian size (power key.modulus s key.exponent) = paddedDigest size message

/-- The signature of a message, none if the key does not fit its own public part. -/
def PrivateKey.sign? (key : PrivateKey) (message : Bytes) : Option Bytes :=
  let n := key.toPublic.modulus
  let size := byteLength n
  let signature :=
    Sha256.bigEndian size (power n (Der.ofBigEndian (paddedDigest size message)) key.exponent)
  if key.toPublic.verifies message signature then some signature else none

end Gatehouse.Crypto.Rsa
