import Gatehouse.Toml.Value

/-!
# Strings, numbers and dates of TOML

Readers for everything that holds no other value. Each takes the rest of a text and gives what it
read with what is left. Numbers may have single underscores between digits; dates follow the calendar.
-/

namespace Gatehouse.Toml.Scalar

/-- A reader of one kind of thing. -/
abbrev Reader (α : Type) := List Char → Option (α × List Char)

def isSpace (c : Char) : Bool := c = ' ' || c = '\t'

def skipSpace (cs : List Char) : List Char := cs.dropWhile isSpace

/-- The text after a line break. -/
def newline? : List Char → Option (List Char)
  | '\n' :: rest => some rest
  | '\r' :: '\n' :: rest => some rest
  | _ => none

/-- The controls that no text may hold; line breaks count among them. -/
def isControl (c : Char) : Bool := (c.toNat < 0x20 && c ≠ '\t') || c.toNat = 0x7F

/-- The text after a comment, if one starts here. -/
def skipComment (cs : List Char) : List Char :=
  match cs with
  | '#' :: rest => rest.dropWhile fun c => !isControl c
  | cs => cs

def hexValue? (c : Char) : Option Nat :=
  if c.isDigit then some (c.toNat - '0'.toNat)
  else if 'a' ≤ c ∧ c ≤ 'f' then some (c.toNat - 'a'.toNat + 10)
  else if 'A' ≤ c ∧ c ≤ 'F' then some (c.toNat - 'A'.toNat + 10)
  else none

/-- The character whose number is written by exactly `count` hexadecimal digits. -/
def codePoint (count : Nat) : Reader Char := fun cs =>
  match (cs.take count).mapM hexValue? with
  | none => none
  | some ds =>
    let n := ds.foldl (fun n d => 16 * n + d) 0
    if ds.length = count ∧ n < 0x110000 ∧ ¬(0xD800 ≤ n ∧ n < 0xE000) then
      some (Char.ofNat n, cs.drop count)
    else none

/-- The character of an escape, after its backslash. -/
def escaped : Reader Char
  | 'b' :: rest => some ('\x08', rest)
  | 't' :: rest => some ('\t', rest)
  | 'n' :: rest => some ('\n', rest)
  | 'f' :: rest => some ('\x0c', rest)
  | 'r' :: rest => some ('\r', rest)
  | '"' :: rest => some ('"', rest)
  | '\\' :: rest => some ('\\', rest)
  | 'u' :: rest => codePoint 4 rest
  | 'U' :: rest => codePoint 8 rest
  | _ => none

/-- The rest of a string on one line, up to its quote. -/
def basicBody : Nat → Reader (List Char)
  | 0, _ => none
  | fuel + 1, cs =>
    match cs with
    | [] => none
    | '"' :: rest => some ([], rest)
    | '\\' :: rest =>
      match escaped rest with
      | none => none
      | some (c, left) => (basicBody fuel left).map fun (body, rest) => (c :: body, rest)
    | c :: rest =>
      if isControl c then none else (basicBody fuel rest).map fun (body, rest) => (c :: body, rest)

/-- The rest of a literal string on one line, up to its apostrophe. -/
def literalBody : Reader (List Char)
  | [] => none
  | '\'' :: rest => some ([], rest)
  | c :: rest => if isControl c then none else (literalBody rest).map fun (s, left) => (c :: s, left)

/-- The text after blanks and line breaks. -/
def skipLines : List Char → List Char
  | '\r' :: '\n' :: rest => skipLines rest
  | '\n' :: rest => skipLines rest
  | ' ' :: rest => skipLines rest
  | '\t' :: rest => skipLines rest
  | cs => cs

/-- The rest of a string of several lines, up to three quotes. Two more quotes may stand before
those. A backslash at the end of a line joins it to the next text. -/
def multilineBody : Nat → Reader (List Char)
  | 0, _ => none
  | fuel + 1, cs =>
    match cs with
    | [] => none
    | '"' :: '"' :: '"' :: '"' :: '"' :: rest => some (['"', '"'], rest)
    | '"' :: '"' :: '"' :: '"' :: rest => some (['"'], rest)
    | '"' :: '"' :: '"' :: rest => some ([], rest)
    | '\r' :: '\n' :: rest => (multilineBody fuel rest).map fun (s, left) => ('\n' :: s, left)
    | '\n' :: rest => (multilineBody fuel rest).map fun (s, left) => ('\n' :: s, left)
    | '\\' :: rest =>
      match newline? (skipSpace rest) with
      | some more => multilineBody fuel (skipLines more)
      | none =>
        match escaped rest with
        | none => none
        | some (c, left) => (multilineBody fuel left).map fun (s, left) => (c :: s, left)
    | c :: rest =>
      if isControl c then none
      else (multilineBody fuel rest).map fun (s, left) => (c :: s, left)

/-- The rest of a literal string of several lines, up to three apostrophes, before which two more may
stand. -/
def multilineLiteralBody : Reader (List Char)
  | [] => none
  | '\'' :: '\'' :: '\'' :: '\'' :: '\'' :: rest => some (['\'', '\''], rest)
  | '\'' :: '\'' :: '\'' :: '\'' :: rest => some (['\''], rest)
  | '\'' :: '\'' :: '\'' :: rest => some ([], rest)
  | '\r' :: '\n' :: rest => (multilineLiteralBody rest).map fun (s, left) => ('\n' :: s, left)
  | c :: rest =>
    if isControl c ∧ c ≠ '\n' then none
    else (multilineLiteralBody rest).map fun (s, left) => (c :: s, left)

/-- A line break right after the opening of a string of several lines does not belong to it. -/
def dropNewline (cs : List Char) : List Char := (newline? cs).getD cs

/-- A string in any of its four forms. -/
def string : Reader String := fun cs =>
  let body : Option (List Char × List Char) :=
    match cs with
    | '"' :: '"' :: '"' :: rest => multilineBody (rest.length + 1) (dropNewline rest)
    | '\'' :: '\'' :: '\'' :: rest => multilineLiteralBody (dropNewline rest)
    | '"' :: rest => basicBody (rest.length + 1) rest
    | '\'' :: rest => literalBody rest
    | _ => none
  body.map fun (s, left) => (String.ofList s, left)

def isBareKeyChar (c : Char) : Bool := c.isAlphanum || c = '_' || c = '-'

/-- One part of a key: bare, or a string on one line. -/
def simpleKey : Reader String := fun cs =>
  match cs with
  | '"' :: rest => (basicBody (rest.length + 1) rest).map fun (s, left) => (String.ofList s, left)
  | '\'' :: rest => (literalBody rest).map fun (s, left) => (String.ofList s, left)
  | cs =>
    let bare := cs.takeWhile isBareKeyChar
    if bare = [] then none else some (String.ofList bare, cs.drop bare.length)

/-- Digits with single underscores between them; the underscores are left out. -/
def digitRun (isDigit : Char → Bool) : Reader (List Char)
  | [] => none
  | c :: '_' :: rest =>
    if isDigit c then (digitRun isDigit rest).map fun (ds, left) => (c :: ds, left) else none
  | c :: rest =>
    if isDigit c then
      match digitRun isDigit rest with
      | some (ds, left) => some (c :: ds, left)
      | none => some ([c], rest)
    else none

/-- Whether a plus or minus sign stands here, and the text after it. -/
def sign : List Char → Option Bool × List Char
  | '+' :: rest => (some false, rest)
  | '-' :: rest => (some true, rest)
  | cs => (none, cs)

/-- Decimal digits without a leading zero. -/
def decimalRun : Reader (List Char)
  | '0' :: rest => some (['0'], rest)
  | cs => digitRun Char.isDigit cs

/-- A whole number of 64 bits: decimal with a sign, or in base sixteen, eight or two. -/
def integer : Reader Toml := fun cs =>
  let based (base : Nat) (isDigit : Char → Bool) (rest : List Char) : Option (Toml × List Char) :=
    (digitRun isDigit rest).bind fun (ds, left) =>
      let n := ds.foldl (fun n d => base * n + (hexValue? d).getD 0) 0
      if n < UInt64.size / 2 then some (.int n, left) else none
  match cs with
  | '0' :: 'x' :: rest => based 16 (fun c => (hexValue? c).isSome) rest
  | '0' :: 'o' :: rest => based 8 (fun c => '0' ≤ c && c ≤ '7') rest
  | '0' :: 'b' :: rest => based 2 (fun c => c = '0' || c = '1') rest
  | _ =>
    let (minus, rest) := sign cs
    (decimalRun rest).bind fun (ds, left) =>
      let n : Int := if minus = some true then -(Number.ofDigits ds : Int) else Number.ofDigits ds
      if (Number.toInt64? n).isSome then some (.int n, left) else none

/-- `n * 10 ^ e` as a floating-point number. -/
def floatOf (isNegative : Bool) (n : Nat) (e : Int) : Number.Binary64 :=
  if n = 0 ∨ (Number.digits n).length + e < -400 then .ofMagnitude isNegative 0
  else if 400 < (Number.digits n).length + e then .infinite isNegative
  else
    .ofRatio isNegative (Number.Binary64.scale n e 0) (Number.Binary64.scale 1 (-e) 0)

def exponent : Reader Int := fun cs =>
  match cs with
  | e :: rest =>
    if e = 'e' ∨ e = 'E' then
      let (minus, rest) := sign rest
      (digitRun Char.isDigit rest).map fun (ds, left) =>
        (if minus = some true then -(Number.ofDigits ds : Int) else Number.ofDigits ds, left)
    else none
  | [] => none

/-- A floating-point number: with a fraction, an exponent or both, or one of the special words. A
positive number out of range is an error. -/
def float : Reader Toml := fun cs =>
  let (minus, rest) := sign cs
  let isNegative := minus = some true
  match rest with
  | 'i' :: 'n' :: 'f' :: left => some (.float (.infinite isNegative), left)
  | 'n' :: 'a' :: 'n' :: left => some (.float ⟨0x7FF8000000000000⟩, left)
  | _ =>
    (decimalRun rest).bind fun (whole, rest) =>
      let fraction : Option (List Char × List Char) :=
        match rest with
        | '.' :: more => digitRun Char.isDigit more
        | _ => none
      let parts : Option (List Char × Int × List Char) :=
        match fraction, exponent rest with
        | some (ds, left), _ =>
          match exponent left with
          | some (e, left) => some (ds, e, left)
          | none => some (ds, 0, left)
        | none, some (e, left) => some ([], e, left)
        | none, none => none
      parts.bind fun (ds, e, left) =>
        let x := floatOf isNegative (Number.ofDigits (whole ++ ds)) (e - ds.length)
        if x.isFinite ∨ isNegative then some (.float x, left) else none

/-- The text after a character that must stand here. -/
def expect? (c : Char) : List Char → Option (List Char)
  | d :: rest => if d = c then some rest else none
  | [] => none

/-- A number of exactly `count` digits. -/
def fixedDigits (count : Nat) : Reader Nat := fun cs =>
  let ds := cs.take count
  if ds.length = count ∧ ds.all Char.isDigit then some (Number.ofDigits ds, cs.drop count) else none

def daysInMonth (year month : Nat) : Nat :=
  if month = 2 then
    if year % 4 = 0 ∧ (year % 100 ≠ 0 ∨ year % 400 = 0) then 29 else 28
  else if month = 4 ∨ month = 6 ∨ month = 9 ∨ month = 11 then 30
  else 31

/-- A number in at least `count` digits. -/
def padded (count n : Nat) : List Char :=
  let ds := Number.digits n
  List.replicate (count - ds.length) '0' ++ ds

def date : Reader (List Char) := fun cs => do
  let (year, cs) ← fixedDigits 4 cs
  let cs ← expect? '-' cs
  let (month, cs) ← fixedDigits 2 cs
  let cs ← expect? '-' cs
  let (day, cs) ← fixedDigits 2 cs
  if 1 ≤ month ∧ month ≤ 12 ∧ 1 ≤ day ∧ day ≤ daysInMonth year month then
    some (padded 4 year ++ '-' :: padded 2 month ++ '-' :: padded 2 day, cs)
  else none

/-- The text of a fraction of a second: nine digits at most, without final zeros. -/
def secondFraction (cs : List Char) : List Char × List Char :=
  match cs with
  | '.' :: rest =>
    let ds := rest.takeWhile Char.isDigit
    if ds = [] then ([], cs)
    else
      let shown := ((ds.take 9).reverse.dropWhile (· = '0')).reverse
      (if shown = [] then [] else '.' :: shown, rest.drop ds.length)
  | _ => ([], cs)

def time : Reader (List Char) := fun cs => do
  let (hour, cs) ← fixedDigits 2 cs
  let cs ← expect? ':' cs
  let (minute, cs) ← fixedDigits 2 cs
  let cs ← expect? ':' cs
  let (second, cs) ← fixedDigits 2 cs
  let (fraction, cs) := secondFraction cs
  if hour ≤ 23 ∧ minute ≤ 59 ∧ second ≤ 60 then
    some (padded 2 hour ++ ':' :: padded 2 minute ++ ':' :: padded 2 second ++ fraction, cs)
  else none

/-- The text of an offset from universal time. -/
def offset : Reader (List Char) := fun cs =>
  match cs with
  | 'Z' :: rest => some (['Z'], rest)
  | 'z' :: rest => some (['Z'], rest)
  | c :: rest =>
    if c = '+' ∨ c = '-' then
      match fixedDigits 2 rest with
      | some (hour, ':' :: more) =>
        match fixedDigits 2 more with
        | some (minute, left) =>
          if hour ≤ 23 ∧ minute ≤ 59 then
            let shown := if hour = 0 ∧ minute = 0 then '+' else c
            some (shown :: padded 2 hour ++ ':' :: padded 2 minute, left)
          else none
        | none => none
      | _ => none
    else none
  | [] => none

/-- A date, a time of day, or both with or without an offset. -/
def datetime : Reader Toml := fun cs =>
  match date cs with
  | none => (time cs).map fun (t, left) => (.datetime (String.ofList t), left)
  | some (d, rest) =>
    let timed : Option (List Char × List Char) :=
      match rest with
      | c :: more => if c = 'T' ∨ c = 't' ∨ c = ' ' then time more else none
      | [] => none
    match timed with
    | none => some (.datetime (String.ofList d), rest)
    | some (t, left) =>
      match offset left with
      | some (o, left) => some (.datetime (String.ofList (d ++ 'T' :: t ++ o)), left)
      | none => some (.datetime (String.ofList (d ++ 'T' :: t)), left)

/-- Any value that holds no other. -/
def scalar : Reader Toml := fun cs =>
  match cs with
  | 't' :: 'r' :: 'u' :: 'e' :: rest => some (.bool true, rest)
  | 'f' :: 'a' :: 'l' :: 's' :: 'e' :: rest => some (.bool false, rest)
  | c :: _ =>
    if c = '"' ∨ c = '\'' then (string cs).map fun (s, left) => (.str s, left)
    else ((datetime cs).or (float cs)).or (integer cs)
  | [] => none

end Gatehouse.Toml.Scalar
