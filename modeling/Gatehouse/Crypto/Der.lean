import Gatehouse.Text.Utf8

/-!
# Tagged data

Keys and certificates are trees of tagged values with explicit lengths. `parse?` reads such a tree;
strings and dates are checked but not kept. `integers?` reads a sequence of whole numbers in its one
canonical form.
-/

namespace Gatehouse.Crypto.Der

/-- A tagged value, as far as keys need it. -/
inductive Block where
  | bitString (bytes : Bytes)
  | octetString (bytes : Bytes)
  | objectId (bytes : Bytes)
  | sequence (items : List Block)
  | other
deriving Inhabited

/-- The rest after a number in base 128, whose last byte has no high bit. -/
def skipBase128 : Bytes → Option Bytes
  | [] => none
  | b :: rest => if b < 0x80 then some rest else skipBase128 rest

/-- Whether bytes split into numbers in base 128. -/
def isBase128 : Bytes → Bool
  | [] => true
  | [b] => b < 0x80
  | _ :: rest => isBase128 rest

/-- A number given by bytes, the highest first. -/
def ofBigEndian (bytes : Bytes) : Nat := bytes.foldl (fun n b => 256 * n + b.toNat) 0

/-- A length and the rest. -/
def length? : Bytes → Option (Nat × Bytes)
  | [] => none
  | b :: rest =>
    if b < 0x80 then some (b.toNat, rest)
    else
      let count := (b &&& 0x7F).toNat
      if 8 < count ∨ rest.length < count then none
      else some (ofBigEndian (rest.take count), rest.drop count)

/-- The characters of a printable string. -/
def isPrintableByte (b : UInt8) : Bool :=
  let c := Char.ofNat b.toNat
  c.isAlphanum || c ∈ [' ', '\'', '(', ')', '+', ',', '-', '.', '/', ':', '=', '?']

/-- Whether bytes are a date of a certificate, with `count` digits before its final `Z`. -/
def isDate (count : Nat) (bytes : Bytes) : Bool :=
  bytes.length = count + 1 && (bytes.take count).all (fun b => 0x30 ≤ b && b ≤ 0x39) &&
    bytes.getLast? = some 0x5A

/-- A value of a universal tag that holds no others. -/
def primitive? (tag : UInt8) (body : Bytes) : Option Block :=
  match tag with
  | 0x01 => if body.length = 1 then some .other else none
  | 0x03 =>
    match body with
    | [] => some (.bitString [])
    | unused :: bits => if unused.toNat ≤ 8 * bits.length then some (.bitString bits) else none
  | 0x04 => some (.octetString body)
  | 0x06 => if body = [] ∨ !isBase128 (body.drop 1) then none else some (.objectId body)
  | 0x0C => if (Text.ofUtf8? body).isSome then some .other else none
  | 0x13 => if body.all isPrintableByte then some .other else none
  | 0x14 => if (Text.ofUtf8? body).isSome then some .other else none
  | 0x16 => if body.all (· < 0x80) then some .other else none
  | 0x17 => if isDate 12 body then some .other else none
  | 0x18 => if isDate 14 body then some .other else none
  | _ => some .other

/-- The tagged values that follow each other in some bytes, at least one, with at most `fuel` steps. -/
def parseAll : Nat → Bytes → Option (List Block)
  | 0, _ => none
  | _, [] => none
  | fuel + 1, tag :: rest => do
    let rest ← if tag &&& 0x1F = 0x1F then skipBase128 rest else some rest
    let (length, rest) ← length? rest
    if rest.length < length then none
    else
      let body := rest.take length
      let block ←
        if tag &&& 0xC0 ≠ 0 then some .other
        else
          match tag &&& 0x1F with
          | 0x10 => (parseAll fuel body).map .sequence
          | 0x11 => (parseAll fuel body).map fun _ => .other
          | base => primitive? base body
      match rest.drop length with
      | [] => some [block]
      | more => (parseAll fuel more).map (block :: ·)

/-- The tagged values of a file. -/
def parse? (bytes : Bytes) : Option (List Block) := parseAll (bytes.length + 1) bytes

mutual

/-- The first bit string or octet string of a value. -/
def Block.firstString? : Block → Option Bytes
  | .bitString bytes => some bytes
  | .octetString bytes => some bytes
  | .sequence items => firstStringOf? items
  | _ => none

/-- The first bit string or octet string of some values. -/
def firstStringOf? : List Block → Option Bytes
  | [] => none
  | item :: items => (item.firstString?).or (firstStringOf? items)

end

mutual

/-- The first object identifier of a value that is on a list. -/
def Block.firstId? (ids : List Bytes) : Block → Option Bytes
  | .objectId bytes => if bytes ∈ ids then some bytes else none
  | .sequence items => firstIdOf? ids items
  | _ => none

/-- The first object identifier of some values that is on a list. -/
def firstIdOf? (ids : List Bytes) : List Block → Option Bytes
  | [] => none
  | item :: items => (item.firstId? ids).or (firstIdOf? ids items)

end

/-- A length in its one canonical form, and the rest. -/
def strictLength? (bytes : Bytes) : Option (Nat × Bytes) :=
  match bytes with
  | [] => none
  | b :: rest =>
    if b < 0x80 then some (b.toNat, rest)
    else
      let count := (b &&& 0x7F).toNat
      let size := ofBigEndian (rest.take count)
      if count = 0 ∨ 2 < count ∨ rest.length < count then none
      else if (count = 1 ∧ size < 0x80) ∨ (count = 2 ∧ size < 0x100) then none
      else some (size, rest.drop count)

/-- The body of a value with a tag, and the rest. -/
def tagged? (tag : UInt8) : Bytes → Option (Bytes × Bytes)
  | [] => none
  | b :: rest => do
    let (size, rest) ← strictLength? rest
    if b = tag ∧ size ≤ rest.length then some (rest.take size, rest.drop size) else none

/-- A whole number that is not negative, in as few bytes as possible. -/
def natural? (body : Bytes) : Option Nat :=
  match body with
  | [] => none
  | [b] => if b < 0x80 then some b.toNat else none
  | 0 :: b :: rest => if 0x80 ≤ b then some (ofBigEndian (b :: rest)) else none
  | b :: rest => if b < 0x80 then some (ofBigEndian (b :: rest)) else none

/-- The whole numbers that fill some bytes, at most `fuel` of them. -/
def naturals? : Nat → Bytes → Option (List Nat)
  | _, [] => some []
  | 0, _ => none
  | fuel + 1, bytes => do
    let (body, rest) ← tagged? 0x02 bytes
    let n ← natural? body
    let others ← naturals? fuel rest
    pure (n :: others)

/-- The whole numbers of a sequence that fills some bytes. -/
def integers? (bytes : Bytes) : Option (List Nat) := do
  let (body, rest) ← tagged? 0x30 bytes
  if rest = [] then naturals? (body.length + 1) body else none

end Gatehouse.Crypto.Der
