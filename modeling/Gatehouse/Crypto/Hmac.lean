import Gatehouse.Crypto.Sha256

/-!
# Keyed digests

HMAC over SHA-256: the key, brought to one block, is combined with two constants, and the message is
digested inside both.
-/

namespace Gatehouse.Crypto

/-- A key of exactly one block: longer keys are digested first. -/
def Hmac.blockKey (key : Bytes) : Bytes :=
  let short := if 64 < key.length then Sha256.digest key else key
  short ++ List.replicate (64 - short.length) 0

/-- The keyed digest of a message. -/
def hmac (key message : Bytes) : Bytes :=
  let block := Hmac.blockKey key
  Sha256.digest (block.map (· ^^^ 0x5C) ++ Sha256.digest (block.map (· ^^^ 0x36) ++ message))

end Gatehouse.Crypto
