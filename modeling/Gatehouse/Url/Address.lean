import Gatehouse.Number.Decimal

/-!
# Numeric hosts

A host whose last label is a number is an IPv4 address, written with one to four parts that may be
octal or hexadecimal. A host in brackets is an IPv6 address of eight pieces, printed with its longest
run of at least two zero pieces left out.
-/

namespace Gatehouse.Url

/-- Split a text at every occurrence of a character; a text without it is one part. -/
def splitAt (sep : Char) : List Char → List (List Char)
  | [] => [[]]
  | c :: cs =>
    if c = sep then [] :: splitAt sep cs
    else
      match splitAt sep cs with
      | [] => [[c]]
      | part :: parts => (c :: part) :: parts

/-- The value of a digit of any base up to sixteen. -/
def baseDigit? (base : Nat) (c : Char) : Option Nat :=
  let d? : Option Nat :=
    if c.isDigit then some (c.toNat - '0'.toNat)
    else if 'a' ≤ c ∧ c ≤ 'f' then some (c.toNat - 'a'.toNat + 10)
    else if 'A' ≤ c ∧ c ≤ 'F' then some (c.toNat - 'A'.toNat + 10)
    else none
  d?.filter (· < base)

/-- The number that digits of a base stand for; an empty run stands for zero. -/
def ofBaseDigits? (base : Nat) (cs : List Char) : Option Nat :=
  cs.foldlM (fun n c => (baseDigit? base c).map (base * n + ·)) 0

/-- One part of an IPv4 address: decimal, octal after `0`, hexadecimal after `0x`. -/
def ipv4Part? : List Char → Option Nat
  | [] => none
  | '0' :: 'x' :: digits => ofBaseDigits? 16 digits
  | '0' :: 'X' :: digits => ofBaseDigits? 16 digits
  | '0' :: d :: digits => ofBaseDigits? 8 (d :: digits)
  | digits => ofBaseDigits? 10 digits

/-- The labels of a domain without the empty one after a final dot. -/
def labels (domain : List Char) : List (List Char) :=
  let parts := splitAt '.' domain
  if parts.length > 1 ∧ parts.getLast? = some [] then parts.dropLast else parts

/-- Whether the last label of a domain is a number, so that the domain must be an address. -/
def endsInNumber (domain : List Char) : Bool :=
  match (labels domain).getLast? with
  | none => false
  | some [] => false
  | some label => label.all Char.isDigit || (ipv4Part? label).isSome

/-- An IPv4 address as a number below `2 ^ 32`: every part but the last is one byte, and the last
fills the bytes that remain. -/
def ipv4? (domain : List Char) : Option Nat := do
  let numbers ← (labels domain).mapM ipv4Part?
  let last ← numbers.getLast?
  let bytes := numbers.dropLast
  let room := 8 * (4 - bytes.length)
  if bytes.length ≤ 3 ∧ bytes.all (· ≤ 255) ∧ last < 1 <<< room then
    some (bytes.foldl (fun n b => 256 * n + b) 0 <<< room + last)
  else none

/-- The four bytes of an IPv4 address, dotted. -/
def printIpv4 (n : Nat) : List Char :=
  Number.digits (n >>> 24) ++ '.' :: Number.digits ((n >>> 16) % 256) ++
    '.' :: Number.digits ((n >>> 8) % 256) ++ '.' :: Number.digits (n % 256)

/-- One byte of a dotted tail: no leading zero, at most 255. -/
def tailByte? (cs : List Char) : Option Nat :=
  match cs with
  | ['0'] => some 0
  | '0' :: _ => none
  | _ => (Number.natural? cs).filter (· ≤ 255)

/-- The pieces between the colons of one side of an IPv6 address. A dotted tail, allowed in last
place, gives two pieces. -/
def pieces? (dottedAllowed : Bool) : List (List Char) → Option (List Nat)
  | [] => some []
  | [part] =>
    if part.contains '.' then
      if dottedAllowed then
        match (splitAt '.' part).mapM tailByte? with
        | some [a, b, c, d] => some [256 * a + b, 256 * c + d]
        | _ => none
      else none
    else piece? part
  | part :: parts => do
    let first ← piece? part
    let others ← pieces? dottedAllowed parts
    pure (first ++ others)
where
  /-- One to four hexadecimal digits. -/
  piece? (part : List Char) : Option (List Nat) :=
    if 1 ≤ part.length ∧ part.length ≤ 4 then (ofBaseDigits? 16 part).map ([·]) else none

/-- The text before and after the first double colon. -/
def splitDoubleColon : List Char → Option (List Char × List Char)
  | ':' :: ':' :: rest => some ([], rest)
  | c :: rest => (splitDoubleColon rest).map fun (before, after) => (c :: before, after)
  | [] => none

/-- The eight pieces of an IPv6 address. A double colon stands for at least one zero piece. -/
def ipv6? (cs : List Char) : Option (List Nat) :=
  let side (dottedAllowed : Bool) (text : List Char) : Option (List Nat) :=
    if text = [] then some [] else pieces? dottedAllowed (splitAt ':' text)
  match splitDoubleColon cs with
  | some (before, after) => do
    let left ← side false before
    let right ← side true after
    if left.length + right.length ≤ 7 then
      some (left ++ List.replicate (8 - left.length - right.length) 0 ++ right)
    else none
  | none => do
    let all ← pieces? true (splitAt ':' cs)
    if all.length = 8 then some all else none

/-- The length of the run of zero pieces at the start. -/
def zeroRun (pieces : List Nat) : Nat := (pieces.takeWhile (· = 0)).length

/-- The start and length of the first longest run of zero pieces. -/
def longestZeroRun (pieces : List Nat) : Nat × Nat :=
  (List.range pieces.length).foldl
    (fun best i =>
      let run := zeroRun (pieces.drop i)
      if best.2 < run then (i, run) else best)
    (0, 0)

/-- Pieces in hexadecimal with colons between them. -/
def printPieces (pieces : List Nat) : List Char :=
  List.intercalate [':'] (pieces.map (Nat.toDigits 16))

/-- The text of an IPv6 address, without brackets. -/
def printIpv6 (pieces : List Nat) : List Char :=
  let (start, run) := longestZeroRun pieces
  if run < 2 then printPieces pieces
  else printPieces (pieces.take start) ++ [':', ':'] ++ printPieces (pieces.drop (start + run))

end Gatehouse.Url
