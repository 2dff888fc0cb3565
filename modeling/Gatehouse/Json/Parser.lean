import Gatehouse.Json.Value

/-!
# Reading JSON

The readers take the rest of a text and give what they read with what is left. `parse?` reads a whole
text. `Opening` is what can be read of an object whose text is cut off or goes wrong later on: a
typed reader judges each member before it sees the next one.
-/

namespace Gatehouse.Json

/-- The four blanks of JSON. -/
def isSpace (c : Char) : Bool :=
  c = ' ' || c = '\n' || c = '\t' || c = '\r'

def skipSpace (cs : List Char) : List Char := cs.dropWhile isSpace

def hexValue? (c : Char) : Option Nat :=
  if c.isDigit then some (c.toNat - '0'.toNat)
  else if 'a' ≤ c ∧ c ≤ 'f' then some (c.toNat - 'a'.toNat + 10)
  else if 'A' ≤ c ∧ c ≤ 'F' then some (c.toNat - 'A'.toNat + 10)
  else none

def hex4? (a b c d : Char) : Option Nat := do
  let a ← hexValue? a
  let b ← hexValue? b
  let c ← hexValue? c
  let d ← hexValue? d
  pure (((a * 16 + b) * 16 + c) * 16 + d)

/-- The character of an escape with one letter. -/
def escaped? (c : Char) : Option Char :=
  match c with
  | '"' => some '"'
  | '\\' => some '\\'
  | '/' => some '/'
  | 'b' => some '\x08'
  | 'f' => some '\x0c'
  | 'n' => some '\n'
  | 'r' => some '\r'
  | 't' => some '\t'
  | _ => none

/-- The characters of a string up to its closing quote. A code point beyond U+FFFF may be escaped as
two units; one unit of such a pair alone is an error. -/
def stringBody : List Char → Option (List Char × List Char)
  | [] => none
  | '"' :: rest => some ([], rest)
  | '\\' :: 'u' :: a :: b :: c :: d :: '\\' :: 'u' :: e :: f :: g :: h :: rest =>
    match hex4? a b c d with
    | none => none
    | some high =>
      if 0xD800 ≤ high ∧ high < 0xDC00 then
        match hex4? e f g h with
        | none => none
        | some low =>
          if 0xDC00 ≤ low ∧ low < 0xE000 then
            (stringBody rest).map fun (cs, left) =>
              (Char.ofNat (0x10000 + (high - 0xD800) * 0x400 + (low - 0xDC00)) :: cs, left)
          else none
      else if 0xDC00 ≤ high ∧ high < 0xE000 then none
      else
        (stringBody ('\\' :: 'u' :: e :: f :: g :: h :: rest)).map fun (cs, left) =>
          (Char.ofNat high :: cs, left)
  | '\\' :: 'u' :: a :: b :: c :: d :: rest =>
    match hex4? a b c d with
    | none => none
    | some unit =>
      if 0xD800 ≤ unit ∧ unit < 0xE000 then none
      else (stringBody rest).map fun (cs, left) => (Char.ofNat unit :: cs, left)
  | '\\' :: c :: rest =>
    match escaped? c with
    | none => none
    | some c => (stringBody rest).map fun (cs, left) => (c :: cs, left)
  | c :: rest =>
    if c.toNat < 0x20 then none
    else (stringBody rest).map fun (cs, left) => (c :: cs, left)

/-- Take further digits into a number of 64 bits for as long as it stays one. -/
def takeDigits (n : Nat) : List Char → Nat × List Char
  | [] => (n, [])
  | c :: rest =>
    if c.isDigit ∧ 10 * n + Number.digitValue c < UInt64.size then
      takeDigits (10 * n + Number.digitValue c) rest
    else (n, c :: rest)

/-- `n * 10 ^ e` by at most `fuel` steps through powers of ten that the format holds; none when it is
too large. -/
def scaleByTen : Nat → Number.Binary64 → Int → Option Number.Binary64
  | 0, x, _ => some x
  | fuel + 1, x, e =>
    if e.natAbs ≤ 308 then
      let scaled :=
        if 0 ≤ e then x.mulAbs (.tenPower e.toNat) else x.divAbs (.tenPower (-e).toNat)
      if scaled.isFinite then some scaled else none
    else if x.significand = 0 then some x
    else if 0 ≤ e then none
    else scaleByTen fuel (x.divAbs (.tenPower 308)) (e + 308)

/-- The floating-point number `n * 10 ^ e`, infinite when it is out of range. -/
def floatOf (isNegative : Bool) (n : Nat) (e : Int) : Json :=
  let x := (scaleByTen 8 (.ofRatio false n 1) e).getD (.infinite false)
  .float (x.withSign isNegative)

/-- The exponent of a number after its `e`. -/
def exponentPart (isNegative : Bool) (n : Nat) (e : Int) (cs : List Char) :
    Option (Json × List Char) :=
  let (minus, digits) : Bool × List Char :=
    match cs with
    | '+' :: rest => (false, rest)
    | '-' :: rest => (true, rest)
    | rest => (false, rest)
  let written := digits.takeWhile Char.isDigit
  if written = [] then none
  else
    let size : Int := Number.ofDigits written
    some (floatOf isNegative n (if minus then e - size else e + size),
      digits.dropWhile Char.isDigit)

/-- What may follow the digits of a number: an exponent or nothing. -/
def numberEnd (isNegative : Bool) (n : Nat) (e : Int) (cs : List Char) :
    Option (Json × List Char) :=
  match cs with
  | 'e' :: rest => exponentPart isNegative n e rest
  | 'E' :: rest => exponentPart isNegative n e rest
  | rest => some (floatOf isNegative n e, rest)

/-- The digits after the point. Those that no longer fit into 64 bits are skipped. -/
def fractionPart (isNegative : Bool) (n : Nat) (e : Int) (cs : List Char) :
    Option (Json × List Char) :=
  let (m, rest) := takeDigits n cs
  let skipped := rest.dropWhile Char.isDigit
  if cs.takeWhile Char.isDigit = [] then none
  else numberEnd isNegative m (e - ((cs.length : Int) - rest.length)) skipped

/-- The first digits of a number, for as long as they fit. A zero stands alone. -/
def firstDigits : List Char → Option (Nat × List Char)
  | [] => none
  | '0' :: rest => if (rest.head?.map Char.isDigit).getD false then none else some (0, rest)
  | c :: rest => if c.isDigit then some (takeDigits (Number.digitValue c) rest) else none

/-- The number that begins with the digits of `n`. A whole number is an integer while it fits a 64-bit
word, a longer one a floating-point number of its first digits and the count of the others. -/
def numberFrom (isNegative : Bool) (n : Nat) (rest : List Char) : Option (Json × List Char) :=
  let others := rest.takeWhile Char.isDigit
  match rest.dropWhile Char.isDigit with
  | '.' :: more => fractionPart isNegative n others.length more
  | 'e' :: more => exponentPart isNegative n others.length more
  | 'E' :: more => exponentPart isNegative n others.length more
  | more =>
    if others ≠ [] then some (floatOf isNegative n others.length, more)
    else if isNegative then
      if n = 0 ∨ UInt64.size / 2 < n then some (floatOf true n 0, more) else some (.int (-n), more)
    else some (.int n, more)

/-- A number without its sign. -/
def unsignedNumber (isNegative : Bool) (cs : List Char) : Option (Json × List Char) :=
  (firstDigits cs).bind fun (n, rest) => numberFrom isNegative n rest

def number : List Char → Option (Json × List Char)
  | '-' :: rest => unsignedNumber true rest
  | cs => unsignedNumber false cs

mutual

/-- A value, with at most `fuel` steps into the text. -/
def value : Nat → List Char → Option (Json × List Char)
  | 0, _ => none
  | fuel + 1, cs =>
    match skipSpace cs with
    | 'n' :: 'u' :: 'l' :: 'l' :: rest => some (.null, rest)
    | 't' :: 'r' :: 'u' :: 'e' :: rest => some (.bool true, rest)
    | 'f' :: 'a' :: 'l' :: 's' :: 'e' :: rest => some (.bool false, rest)
    | '"' :: rest => (stringBody rest).map fun (s, left) => (.str (String.ofList s), left)
    | '[' :: rest =>
      match skipSpace rest with
      | ']' :: left => some (.arr [], left)
      | _ => (items fuel rest).map fun (xs, left) => (.arr xs, left)
    | '\x7b' :: rest =>
      match skipSpace rest with
      | '\x7d' :: left => some (.obj [], left)
      | _ => (members fuel rest).map fun (ms, left) => (.obj ms, left)
    | rest => number rest

/-- The items of an array up to its bracket, at least one. -/
def items : Nat → List Char → Option (List Json × List Char)
  | 0, _ => none
  | fuel + 1, cs =>
    match value fuel cs with
    | none => none
    | some (x, rest) =>
      match skipSpace rest with
      | ']' :: left => some ([x], left)
      | ',' :: more => (items fuel more).map fun (xs, left) => (x :: xs, left)
      | _ => none

/-- The members of an object up to its brace, at least one. -/
def members : Nat → List Char → Option (List (String × Json) × List Char)
  | 0, _ => none
  | fuel + 1, cs =>
    match skipSpace cs with
    | '"' :: named =>
      match stringBody named with
      | none => none
      | some (name, rest) =>
        match skipSpace rest with
        | ':' :: valued =>
          match value fuel valued with
          | none => none
          | some (x, rest) =>
            match skipSpace rest with
            | '\x7d' :: left => some ([(String.ofList name, x)], left)
            | ',' :: more =>
              (members fuel more).map fun (ms, left) => ((String.ofList name, x) :: ms, left)
            | _ => none
        | _ => none
    | _ => none

end

/-- A value at the start of a text. -/
def read (cs : List Char) : Option (Json × List Char) :=
  value (cs.length + 1) cs

/-- A text that is one value and blanks. -/
def parse? (text : String) : Option Json :=
  match read text.toList with
  | some (x, rest) => if skipSpace rest = [] then some x else none
  | none => none

/-- How the reading of an object ended. -/
inductive Ending where
  /-- At the closing brace, with the rest of the text. -/
  | closed (rest : List Char)
  /-- After a member's name, at something that is no value. -/
  | named (name : String)
  /-- At something else that does not belong there. -/
  | broken
deriving Repr

/-- The members that can be read of an object, and what ended it. -/
structure Opening where
  members : List (String × Json)
  ending : Ending
deriving Repr

/-- Read members one by one, after the opening brace or a comma. -/
def openMembers : Nat → List Char → Opening
  | 0, _ => ⟨[], .broken⟩
  | fuel + 1, cs =>
    match skipSpace cs with
    | '"' :: named =>
      match stringBody named with
      | none => ⟨[], .broken⟩
      | some (chars, rest) =>
        let name := String.ofList chars
        match skipSpace rest with
        | ':' :: valued =>
          match read valued with
          | none => ⟨[], .named name⟩
          | some (x, rest) =>
            match skipSpace rest with
            | '\x7d' :: left => ⟨[(name, x)], .closed left⟩
            | ',' :: more =>
              let later := openMembers fuel more
              ⟨(name, x) :: later.members, later.ending⟩
            | _ => ⟨[(name, x)], .broken⟩
        | _ => ⟨[], .named name⟩
    | _ => ⟨[], .broken⟩

/-- What can be read of a text that begins with an object. -/
def Opening.ofText? (cs : List Char) : Option Opening :=
  match skipSpace cs with
  | '\x7b' :: rest =>
    match skipSpace rest with
    | '\x7d' :: left => some ⟨[], .closed left⟩
    | _ => some (openMembers (rest.length + 1) rest)
  | _ => none

end Gatehouse.Json
