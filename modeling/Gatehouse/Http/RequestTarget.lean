import Gatehouse.Text.Utf8

/-!
# Request targets

What a request asks for: a path with an optional query, an absolute form with scheme and authority, an
authority alone, or an asterisk. A text longer than 65534 bytes is none of them.
-/

namespace Gatehouse.Http

/-- A request target. The path is empty for an authority alone. -/
structure RequestTarget where
  scheme : Option String
  authority : Option String
  path : String
  query : Option String
deriving DecidableEq, Repr

namespace RequestTarget

/-- The greatest length of a target in bytes. -/
def maxLength : Nat := 65534

def maxSchemeLength : Nat := 64

def isSchemeChar (c : Char) : Bool :=
  c.isAlphanum || c = '+' || c = '-' || c = '.' || c = '~'

/-- The characters of an authority: the unreserved and reserved characters of URIs. -/
def isAuthorityChar (c : Char) : Bool :=
  c.isAlphanum || c ∈ ['!', '$', '&', '\'', '(', ')', '*', '+', ',', '-', '.', ':', ';', '=', '@',
    '[', ']', '_', '~']

def endsAuthority (c : Char) : Bool := c = '/' || c = '?' || c = '#'

def isPathChar (c : Char) : Bool :=
  let n := c.toNat
  n = 0x21 || n = 0x22 || (0x24 ≤ n && n ≤ 0x3B) || n = 0x3D || (0x40 ≤ n && n ≤ 0x5F) ||
    (0x61 ≤ n && n ≤ 0x7E) || 0x7F ≤ n

def isQueryChar (c : Char) : Bool :=
  let n := c.toNat
  n = 0x21 || (0x24 ≤ n && n ≤ 0x3B) || n = 0x3D || 0x3F ≤ n

/-- What is known of an authority while it is read from left to right. -/
structure AuthorityScan where
  colons : Nat := 0
  opened : Bool := false
  closed : Bool := false
  percent : Bool := false
deriving DecidableEq, Repr

/-- Read one more character of an authority. Colons and percent signs of user information and of an
address in brackets do not count. -/
def AuthorityScan.next (scan : AuthorityScan) (c : Char) : Option AuthorityScan :=
  if c = ':' then
    if 8 ≤ scan.colons then none else some { scan with colons := scan.colons + 1 }
  else if c = '[' then
    if scan.percent ∨ scan.opened then none else some { scan with opened := true }
  else if c = ']' then
    if scan.opened ∧ ¬scan.closed then
      some { scan with closed := true, colons := 0, percent := false }
    else none
  else if c = '@' then some { scan with colons := 0, percent := false }
  else if c = '%' then some { scan with percent := true }
  else if isAuthorityChar c then some scan
  else none

/-- Whether a text is an authority: brackets are paired, at most one colon is left for a port, no
percent sign is left, and something follows the last at sign. -/
def isAuthority (cs : List Char) : Bool :=
  match cs.foldlM AuthorityScan.next {} with
  | none => false
  | some scan =>
    scan.opened = scan.closed && scan.colons ≤ 1 && !scan.percent && cs.getLast? ≠ some '@'

/-- Path and query of a target; what follows a number sign is dropped. -/
def pathAndQuery? (cs : List Char) : Option (String × Option String) :=
  let cs := cs.takeWhile (· ≠ '#')
  let path := cs.takeWhile (· ≠ '?')
  let shown := if path = [] then "/" else String.ofList path
  if path.all isPathChar then
    match cs.dropWhile (· ≠ '?') with
    | [] => some (shown, none)
    | _ :: query =>
      if query.all isQueryChar then some (shown, some (String.ofList query)) else none
  else none

/-- The scheme of an absolute target and what follows its `://`. The two schemes of the web are
written in small letters. -/
def splitScheme? (cs : List Char) : Option (List Char × List Char) :=
  let name := cs.takeWhile isSchemeChar
  match cs.dropWhile isSchemeChar with
  | ':' :: '/' :: '/' :: rest =>
    let small := name.map Char.toLower
    if small = ['h', 't', 't', 'p'] ∨ small = ['h', 't', 't', 'p', 's'] then some (small, rest)
    else some (name, rest)
  | _ => none

def parse? (s : String) : Option RequestTarget :=
  let cs := s.toList
  if maxLength < s.utf8ByteSize then none
  else if s = "*" then some ⟨none, none, "*", none⟩
  else
    match cs with
    | [] => none
    | '/' :: _ => (pathAndQuery? cs).map fun (path, query) => ⟨none, none, path, query⟩
    | _ =>
      match if 3 < cs.length then splitScheme? cs else none with
      | some (scheme, rest) =>
        let authority := rest.takeWhile fun c => !endsAuthority c
        if scheme.length ≤ maxSchemeLength ∧ authority ≠ [] ∧ isAuthority authority then
          (pathAndQuery? (rest.drop authority.length)).map fun (path, query) =>
            ⟨some (String.ofList scheme), some (String.ofList authority), path, query⟩
        else none
      | none =>
        if isAuthority cs ∧ cs.all fun c => !endsAuthority c then some ⟨none, some s, "", none⟩
        else none

end RequestTarget

end Gatehouse.Http
