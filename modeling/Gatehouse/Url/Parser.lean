import Gatehouse.Text.Blank
import Gatehouse.Url.Host

/-!
# Absolute URLs

A URL is read once and kept in normal form: the scheme in small letters, the host prepared, the port
of the scheme left out, dot segments resolved, and everything else percent-encoded where its part
asks for it. `origin` is the text before the path; `text` is the whole.
-/

namespace Gatehouse

/-- An absolute URL in normal form. -/
structure Url where
  scheme : String
  username : String
  password : Option String
  host : Option Url.Host
  port : Option Nat
  path : String
  query : Option String
  fragment : Option String
deriving DecidableEq, Repr

namespace Url

/-- How the part after the scheme is read. -/
inductive SchemeKind where
  | special
  | file
  | other
deriving DecidableEq, Repr

def SchemeKind.of (scheme : String) : SchemeKind :=
  if scheme = "file" then .file
  else if scheme ∈ ["http", "https", "ws", "wss", "ftp"] then .special
  else .other

/-- The port that a scheme uses when none is given. -/
def defaultPort? (scheme : String) : Option Nat :=
  if scheme = "http" ∨ scheme = "ws" then some 80
  else if scheme = "https" ∨ scheme = "wss" then some 443
  else if scheme = "ftp" then some 21
  else none

/-- Letters, digits and the marks allowed in a scheme. -/
def isSchemeChar (c : Char) : Bool := c.isAlphanum || c = '+' || c = '-' || c = '.'

/-- The scheme in small letters, and what follows its colon. -/
def splitScheme? (cs : List Char) : Option (List Char × List Char) :=
  match cs.takeWhile isSchemeChar, cs.dropWhile isSchemeChar with
  | c :: name, ':' :: rest => if c.isAlpha then some ((c :: name).map Char.toLower, rest) else none
  | _, _ => none

/-- Slashes, and backslashes where the scheme treats them alike. -/
def isSlash (kind : SchemeKind) (c : Char) : Bool :=
  c = '/' || (c = '\\' && kind ≠ .other)

def endsAuthority (kind : SchemeKind) (c : Char) : Bool :=
  isSlash kind c || c = '?' || c = '#'

/-- The text before and after the last at sign, if there is one. -/
def splitLastAt? : List Char → Option (List Char × List Char)
  | [] => none
  | c :: cs =>
    match splitLastAt? cs with
    | some (before, after) => some (c :: before, after)
    | none => if c = '@' then some ([], cs) else none

/-- User name, password and the rest from the host on. -/
def userinfo (kind : SchemeKind) (cs : List Char) :
    Except UrlError ((String × Option String) × List Char) :=
  let inside := cs.takeWhile fun c => !endsAuthority kind c
  match splitLastAt? inside with
  | none => .ok (("", none), cs)
  | some (before, _) =>
    let rest := cs.drop (before.length + 1)
    if before = [] then
      if (rest.head?.map (endsAuthority kind)).getD false then .error .emptyHost
      else .ok (("", none), rest)
    else
      let user := before.takeWhile (· ≠ ':')
      let secret := (before.dropWhile (· ≠ ':')).drop 1
      let encoded (part : List Char) := String.ofList (percentEncode inUserinfoSet part)
      .ok ((encoded user, if secret = [] then none else some (encoded secret)), rest)

/-- The text of the host: up to a colon outside brackets or the end of the authority. -/
def hostText (kind : SchemeKind) : Bool → List Char → List Char
  | _, [] => []
  | bracketed, c :: cs =>
    if (c = ':' ∧ !bracketed) ∨ endsAuthority kind c then []
    else c :: hostText kind (if c = '[' then true else if c = ']' then false else bracketed) cs

def endsPort (c : Char) : Bool := c = '/' || c = '\\' || c = '?' || c = '#'

/-- The port after the host, and the rest. -/
def portPart (scheme : String) (cs : List Char) : Except UrlError (Option Nat × List Char) :=
  match cs with
  | ':' :: rest =>
    let digits := rest.takeWhile Char.isDigit
    let after := rest.dropWhile Char.isDigit
    let number := Number.ofDigits digits
    if 65535 < number then .error .portNumber
    else if !(after.head?.map endsPort).getD true then .error .portNumber
    else if digits = [] ∨ defaultPort? scheme = some number then .ok (none, after)
    else .ok (some number, after)
  | cs => .ok (none, cs)

/-- Whether a segment stands for the level itself. -/
def isSingleDot (segment : List Char) : Bool :=
  String.ofList (segment.map Char.toLower) ∈ [".", "%2e"]

/-- Whether a segment stands for the level above. -/
def isDoubleDot (segment : List Char) : Bool :=
  String.ofList (segment.map Char.toLower) ∈ ["..", ".%2e", "%2e.", "%2e%2e"]

def splitSegments (kind : SchemeKind) : List Char → List (List Char)
  | [] => [[]]
  | c :: cs =>
    if isSlash kind c then [] :: splitSegments kind cs
    else
      match splitSegments kind cs with
      | [] => [[c]]
      | segment :: segments => (c :: segment) :: segments

/-- Resolve dot segments. The segments kept so far are given last first. -/
def resolveSegments : List (List Char) → List (List Char) → List (List Char)
  | kept, [] => kept.reverse
  | kept, [last] =>
    if isDoubleDot last then ([] :: kept.drop 1).reverse
    else if isSingleDot last then ([] :: kept).reverse
    else (last :: kept).reverse
  | kept, segment :: segments =>
    if isDoubleDot segment then resolveSegments (kept.drop 1) segments
    else if isSingleDot segment then resolveSegments kept segments
    else resolveSegments (segment :: kept) segments

/-- The normal form of a path, given without its first slash. -/
def normalPath (kind : SchemeKind) (cs : List Char) : List Char :=
  let encoded := (splitSegments kind cs).map (percentEncode inPathSet)
  '/' :: List.intercalate ['/'] (resolveSegments [] encoded)

/-- Whether a query or fragment starts here. -/
def endsPath (c : Char) : Bool := c = '?' || c = '#'

/-- The query and fragment at the end of a URL. -/
def tailParts (kind : SchemeKind) (cs : List Char) : Option String × Option String :=
  let encodeQuery (part : List Char) :=
    String.ofList (percentEncode (if kind = .other then inQuerySet else inSpecialQuerySet) part)
  let encodeFragment (part : List Char) := String.ofList (percentEncode inFragmentSet part)
  match cs with
  | '?' :: rest =>
    match rest.dropWhile (· ≠ '#') with
    | '#' :: more => (some (encodeQuery (rest.takeWhile (· ≠ '#'))), some (encodeFragment more))
    | _ => (some (encodeQuery rest), none)
  | '#' :: rest => (none, some (encodeFragment rest))
  | _ => (none, none)

/-- The path after an authority. -/
def pathPart (kind : SchemeKind) (cs : List Char) : List Char :=
  let path := cs.takeWhile fun c => !endsPath c
  match path with
  | [] => if kind = .other then [] else ['/']
  | c :: rest => if isSlash kind c then normalPath kind rest else normalPath kind path

/-- A URL from the start of its authority. -/
def ofAuthority (scheme : String) (kind : SchemeKind) (cs : List Char) : Except UrlError Url := do
  let ((username, password), rest) ← userinfo kind cs
  let written := hostText kind false rest
  if kind = .special ∧ written = [] then .error .emptyHost
  let host ← if kind = .other then Host.parseOpaque written else Host.parse written
  let afterHost := rest.drop written.length
  if written = [] ∧ afterHost.head? = some ':' then .error .emptyHost
  let (port, afterPort) ← portPart scheme afterHost
  if written = [] ∧ (username ≠ "" ∨ password ≠ none) then .error .emptyHost
  let (query, fragment) := tailParts kind (afterPort.dropWhile fun c => !endsPath c)
  pure
    { scheme, username, password
      host := if written = [] then none else some host
      port
      path := String.ofList (pathPart kind afterPort)
      query, fragment }

/-- Whether a segment is a drive letter, as `C:` or `C|`. -/
def isDriveLetter (segment : List Char) : Bool :=
  match segment with
  | [letter, mark] => letter.isAlpha && (mark = ':' || mark = '|')
  | _ => false

/-- The text of the host of a URL of the scheme `file`, and the rest. A drive letter is never a host. -/
def splitFileHost (cs : List Char) : List Char × List Char :=
  match cs with
  | a :: b :: more =>
    if isSlash .file a ∧ isSlash .file b then
      let name := more.takeWhile fun c => !endsAuthority .file c
      if isDriveLetter name then ([], more) else (name, more.drop name.length)
    else ([], cs)
  | _ => ([], cs)

/-- The host of a URL of the scheme `file`. The machine's own name counts as none. -/
def fileHost? (written : List Char) : Except UrlError (Option Host) :=
  if written = [] then .ok none
  else (Host.parse written).map fun host => if host.text = "localhost" then none else some host

/-- A URL of the scheme `file` from the end of its scheme. A path that starts with a drive letter has
no host. -/
def ofFile (cs : List Char) : Except UrlError Url :=
  let (written, rest) := splitFileHost cs
  (fileHost? written).map fun host =>
    let path := pathPart .file rest
    let (query, fragment) := tailParts .file (rest.dropWhile fun c => !endsPath c)
    let startsWithDrive := isDriveLetter (path.drop 1 |>.takeWhile (· ≠ '/'))
    { scheme := "file", username := "", password := none
      host := if startsWithDrive then none else host
      port := none
      path := String.ofList path
      query, fragment }

/-- A URL without an authority. -/
def ofPath (scheme : String) (cs : List Char) : Url :=
  let written := cs.takeWhile fun c => !endsPath c
  let path :=
    match written with
    | '/' :: rest => normalPath .other rest
    | opaquePath => percentEncode isControl opaquePath
  let (query, fragment) := tailParts .other (cs.dropWhile fun c => !endsPath c)
  { scheme, username := "", password := none, host := none, port := none
    path := String.ofList path, query, fragment }

/-- The text that is read as a URL: without controls and blanks around it, tabs and line breaks. -/
def cleaned (cs : List Char) : List Char :=
  (Text.stripWhile (fun c => c.toNat ≤ 0x20) cs).filter fun c => c ≠ '\t' ∧ c ≠ '\n' ∧ c ≠ '\r'

def parse (s : String) : Except UrlError Url :=
  match splitScheme? (cleaned s.toList) with
  | none => .error .noBase
  | some (name, rest) =>
    let scheme := String.ofList name
    match SchemeKind.of scheme with
    | .special => ofAuthority scheme .special (rest.dropWhile (isSlash .special))
    | .file => ofFile rest
    | .other =>
      match rest with
      | '/' :: '/' :: more => ofAuthority scheme .other more
      | _ => .ok (ofPath scheme rest)

def hasHost (url : Url) : Bool :=
  match url.host with
  | some host => host.text ≠ ""
  | none => false

/-- User name and password as they stand before the host. -/
def credentials (url : Url) : String :=
  let secret := match url.password with
    | some secret => ":" ++ secret
    | none => ""
  if url.username = "" ∧ url.password = none then "" else url.username ++ secret ++ "@"

/-- User information, host and port. -/
def authority (url : Url) : String :=
  let host := match url.host with
    | some host => host.text
    | none => ""
  let port := match url.port with
    | some port => ":" ++ String.ofList (Number.digits port)
    | none => ""
  url.credentials ++ host ++ port

/-- The text before the path. -/
def origin (url : Url) : String := url.scheme ++ "://" ++ url.authority

/-- The whole text of a URL with an authority. -/
def text (url : Url) : String :=
  let query := match url.query with
    | some query => "?" ++ query
    | none => ""
  let fragment := match url.fragment with
    | some fragment => "#" ++ fragment
    | none => ""
  url.origin ++ url.path ++ query ++ fragment

end Url

end Gatehouse
