import Gatehouse.Text.Utf8

/-!
# Base 64

Three bytes are written as four characters of an alphabet. The form for URLs has no padding; the
standard form is filled up with equals signs. Bits that stand for nothing must be zero, so every byte
string has one written form.
-/

namespace Gatehouse.Crypto.Base64

/-- The characters for the last two values of an alphabet. -/
structure Alphabet where
  plus : Char
  slash : Char

def urlSafe : Alphabet := ⟨'-', '_'⟩

def standard : Alphabet := ⟨'+', '/'⟩

/-- The character for a value below 64. -/
def digit (alphabet : Alphabet) (n : Nat) : Char :=
  if n < 26 then Char.ofNat ('A'.toNat + n)
  else if n < 52 then Char.ofNat ('a'.toNat + (n - 26))
  else if n < 62 then Char.ofNat ('0'.toNat + (n - 52))
  else if n = 62 then alphabet.plus
  else alphabet.slash

/-- The value of a character. -/
def digitValue? (alphabet : Alphabet) (c : Char) : Option Nat :=
  if c.isUpper then some (c.toNat - 'A'.toNat)
  else if c.isLower then some (c.toNat - 'a'.toNat + 26)
  else if c.isDigit then some (c.toNat - '0'.toNat + 52)
  else if c = alphabet.plus then some 62
  else if c = alphabet.slash then some 63
  else none

/-- Bytes in base 64 without padding. -/
def encode (alphabet : Alphabet) : Bytes → List Char
  | a :: b :: c :: rest =>
    digit alphabet (a.toNat / 4) :: digit alphabet (a.toNat % 4 * 16 + b.toNat / 16) ::
      digit alphabet (b.toNat % 16 * 4 + c.toNat / 64) :: digit alphabet (c.toNat % 64) ::
      encode alphabet rest
  | [a, b] =>
    [digit alphabet (a.toNat / 4), digit alphabet (a.toNat % 4 * 16 + b.toNat / 16),
      digit alphabet (b.toNat % 16 * 4)]
  | [a] => [digit alphabet (a.toNat / 4), digit alphabet (a.toNat % 4 * 16)]
  | [] => []

/-- The bytes that digits without padding stand for. -/
def decodeDigits? : List Nat → Option Bytes
  | a :: b :: c :: d :: rest =>
    (decodeDigits? rest).map fun bytes =>
      UInt8.ofNat (a * 4 + b / 16) :: UInt8.ofNat (b % 16 * 16 + c / 4) ::
        UInt8.ofNat (c % 4 * 64 + d) :: bytes
  | [a, b, c] =>
    if c % 4 = 0 then some [UInt8.ofNat (a * 4 + b / 16), UInt8.ofNat (b % 16 * 16 + c / 4)]
    else none
  | [a, b] => if b % 16 = 0 then some [UInt8.ofNat (a * 4 + b / 16)] else none
  | [_] => none
  | [] => some []

/-- The bytes of a text in base 64 without padding. -/
def decode? (alphabet : Alphabet) (cs : List Char) : Option Bytes :=
  (cs.mapM (digitValue? alphabet)).bind decodeDigits?

/-- The bytes of a text in base 64 that is filled up to a multiple of four characters. -/
def decodePadded? (alphabet : Alphabet) (cs : List Char) : Option Bytes :=
  let digits := cs.takeWhile (· ≠ '=')
  let padding := cs.drop digits.length
  if cs.length % 4 = 0 ∧ padding.length ≤ 2 ∧ padding.all (· = '=') then decode? alphabet digits
  else none

end Gatehouse.Crypto.Base64
