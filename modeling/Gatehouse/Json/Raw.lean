import Gatehouse.Json.Parser
import Gatehouse.Text.Utf8

/-!
# JSON with values that are skipped

A reader that knows the members it wants skips the values of all others. It only looks for their end: the
bytes of a skipped string need not be those of a text, an escape in it need not stand for a character,
and no nesting is too deep. The names of members and the values that are wanted are read as ever. The text
is raw here, a character of the same number for each byte.
-/

namespace Gatehouse.Json

/-- A raw text: bytes as characters of the same number. -/
abbrev Raw := List Char

namespace Raw

def ofBytes (bytes : Bytes) : Raw := bytes.map fun b => Char.ofNat b.toNat

def bytes (raw : Raw) : Bytes := raw.map fun c => UInt8.ofNat c.toNat

/-- Read from the longest start of a raw text that is a text. -/
def readText {α : Type} (read : List Char → Option (α × List Char)) (raw : Raw) :
    Option (α × Raw) :=
  let (text, others) := Text.splitText raw.bytes
  (read text.toList).map fun (a, rest) => (a, ofBytes (Text.utf8 (String.ofList rest) ++ others))

/-- What stands behind the closing quote of a string. -/
def skipString : Raw → Option Raw
  | [] => none
  | '"' :: rest => some rest
  | '\\' :: 'u' :: a :: b :: c :: d :: rest =>
    if (hex4? a b c d).isSome then skipString rest else none
  | '\\' :: c :: rest => if (escaped? c).isSome then skipString rest else none
  | c :: rest => if c.toNat < 0x20 then none else skipString rest

/-- What stands behind digits, of which there is at least one. -/
def skipDigits : Raw → Option Raw
  | [] => none
  | c :: rest => if c.isDigit then some (rest.dropWhile Char.isDigit) else none

/-- What stands behind the exponent of a number, after its `e`. -/
def skipExponent : Raw → Option Raw
  | '+' :: rest => skipDigits rest
  | '-' :: rest => skipDigits rest
  | rest => skipDigits rest

def skipNumberEnd : Raw → Option Raw
  | 'e' :: rest => skipExponent rest
  | 'E' :: rest => skipExponent rest
  | rest => some rest

def skipFraction : Raw → Option Raw
  | '.' :: rest => (skipDigits rest).bind skipNumberEnd
  | rest => skipNumberEnd rest

/-- What stands behind a number without its sign. A zero stands alone. -/
def skipUnsigned : Raw → Option Raw
  | '0' :: rest => if (rest.head?.map Char.isDigit).getD false then none else skipFraction rest
  | rest => (skipDigits rest).bind skipFraction

def skipNumber : Raw → Option Raw
  | '-' :: rest => skipUnsigned rest
  | rest => skipUnsigned rest

mutual

/-- What stands behind a value, with at most `fuel` steps into the text. -/
def skipValue : Nat → Raw → Option Raw
  | 0, _ => none
  | fuel + 1, cs =>
    match skipSpace cs with
    | 'n' :: 'u' :: 'l' :: 'l' :: rest => some rest
    | 't' :: 'r' :: 'u' :: 'e' :: rest => some rest
    | 'f' :: 'a' :: 'l' :: 's' :: 'e' :: rest => some rest
    | '"' :: rest => skipString rest
    | '[' :: rest =>
      match skipSpace rest with
      | ']' :: left => some left
      | _ => skipItems fuel rest
    | '\x7b' :: rest =>
      match skipSpace rest with
      | '\x7d' :: left => some left
      | _ => skipMembers fuel rest
    | rest => skipNumber rest

/-- What stands behind the items of an array and its bracket. -/
def skipItems : Nat → Raw → Option Raw
  | 0, _ => none
  | fuel + 1, cs =>
    match skipValue fuel cs with
    | none => none
    | some rest =>
      match skipSpace rest with
      | ']' :: left => some left
      | ',' :: more => skipItems fuel more
      | _ => none

/-- What stands behind the members of an object and its brace. -/
def skipMembers : Nat → Raw → Option Raw
  | 0, _ => none
  | fuel + 1, cs =>
    match skipSpace cs with
    | '"' :: named =>
      match skipString named with
      | none => none
      | some rest =>
        match skipSpace rest with
        | ':' :: valued =>
          match skipValue fuel valued with
          | none => none
          | some rest =>
            match skipSpace rest with
            | '\x7d' :: left => some left
            | ',' :: more => skipMembers fuel more
            | _ => none
        | _ => none
    | _ => none

end

/-- The value of a member, if it is wanted, and what stands behind it. -/
def memberValue (isWanted : Bool) (raw : Raw) : Option (Option Json × Raw) :=
  if isWanted then (readText read raw).map fun (x, rest) => (some x, rest)
  else (skipValue (raw.length + 1) raw).map fun rest => (none, rest)

/-- Read the wanted members one by one, after the opening brace or a comma. -/
def openMembers (isWanted : String → Bool) : Nat → Raw → Opening
  | 0, _ => ⟨[], .broken⟩
  | fuel + 1, cs =>
    match skipSpace cs with
    | '"' :: named =>
      match readText stringBody named with
      | none => ⟨[], .broken⟩
      | some (chars, rest) =>
        let name := String.ofList chars
        match skipSpace rest with
        | ':' :: valued =>
          match memberValue (isWanted name) valued with
          | none => ⟨[], .named name⟩
          | some (value, rest) =>
            let members := value.toList.map fun x => (name, x)
            match skipSpace rest with
            | '\x7d' :: left => ⟨members, .closed left⟩
            | ',' :: more =>
              let later := openMembers isWanted fuel more
              ⟨members ++ later.members, later.ending⟩
            | _ => ⟨members, .broken⟩
        | _ => ⟨[], .named name⟩
    | _ => ⟨[], .broken⟩

/-- What can be read of the wanted members of bytes that begin with an object. -/
def open? (isWanted : String → Bool) (bytes : Bytes) : Option Opening :=
  match skipSpace (ofBytes bytes) with
  | '\x7b' :: rest =>
    match skipSpace rest with
    | '\x7d' :: left => some ⟨[], .closed left⟩
    | _ => some (openMembers isWanted (rest.length + 1) rest)
  | _ => none

end Raw

end Gatehouse.Json
