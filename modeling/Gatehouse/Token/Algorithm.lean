import Gatehouse.Text.Blank
import Gatehouse.Text.Quoted

/-!
# Signing algorithms

Tokens are signed with a shared secret or with an RSA key pair. `ofName?` reads a name in any letter
case; `name` writes it.
-/

namespace Gatehouse.Token

/-- The two ways of signing a token. -/
inductive Algorithm where
  /-- HMAC with SHA-256 under a shared secret. -/
  | hs256
  /-- RSA PKCS #1 v1.5 with SHA-256. -/
  | rs256
deriving DecidableEq, Repr, Inhabited

namespace Algorithm

/-- The name used in token headers and settings. -/
def name : Algorithm → String
  | .hs256 => "HS256"
  | .rs256 => "RS256"

/-- The name of the constructor, as key sets and settings are shown in logs. -/
def label : Algorithm → String
  | .hs256 => "Hs256"
  | .rs256 => "Rs256"

/-- The algorithm of a name in any letter case, blanks around it aside. -/
def ofName? (s : String) : Option Algorithm :=
  let upper := Text.upperAscii (Text.trim s)
  if upper = "HS256" then some .hs256
  else if upper = "RS256" then some .rs256
  else none

end Algorithm

end Gatehouse.Token
