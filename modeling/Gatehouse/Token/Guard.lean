import Gatehouse.Http.Response
import Gatehouse.Token.Verifier

/-!
# Guarding routes

A guarded route is reached with a bearer token only. `bearerToken?` finds the token in the header
fields, `authenticate` verifies it, and `requireAuth` puts the user it names before a handler. Every
token that is not accepted is answered in one way, whatever the reason.
-/

namespace Gatehouse.Token

open Http (Headers Response)

/-- Why a caller is turned away. -/
inductive AuthError where
  | missingHeader
  | invalidToken
deriving DecidableEq, Repr

namespace AuthError

def message : AuthError → String
  | .missingHeader => "Missing or invalid Authorization header"
  | .invalidToken => "Invalid or expired token"

def response (e : AuthError) : Response := .error 401 e.message

end AuthError

/-- What stands before a token, with one blank at the end. -/
def bearerMark : List Char := "Bearer ".toList

/-- The rest of a text after a mark. -/
def after? (mark cs : List Char) : Option (List Char) :=
  if mark.isPrefixOf cs then some (cs.drop mark.length) else none

/-- The token in the first `Authorization` field, blanks around it aside. -/
def bearerToken? (headers : Headers) : Option String :=
  ((headers.get? .authorization).bind (·.text?)).bind fun value =>
    (after? bearerMark value.toList).bind fun rest =>
      let token := Text.trim (String.ofList rest)
      if token = "" then none else some token

/-- The user whom a token names. -/
structure User where
  userId : Int64
  username : String
deriving DecidableEq, Repr

def User.toJson (user : User) : Json :=
  .obj [("user_id", .int user.userId.toInt), ("username", .str user.username)]

/-- The user whom the header fields of a request name, at a time in seconds. -/
def authenticate (verifier : Verifier) (now : Int64) (headers : Headers) : Except AuthError User :=
  match bearerToken? headers with
  | none => .error .missingHeader
  | some token =>
    match verifier.verifyAt token now with
    | .ok payload => .ok ⟨payload.userId, payload.username⟩
    | .error _ => .error .invalidToken

/-- A request on its way to a handler, with the user that a guard found. -/
structure Visit where
  headers : Headers
  user : Option User := none
deriving DecidableEq, Repr

/-- Answers a request. -/
abbrev Handler := Visit → Response

section Effects

variable {m : Type → Type} [Monad m]

/-- Let a request pass with the user that its token names, or turn it away. The handler behind the guard
may do anything on its way to an answer. -/
def requireAuthM (verifier : Verifier) (now : Int64) (next : Visit → m Response) (visit : Visit) :
    m Response :=
  match authenticate verifier now visit.headers with
  | .ok user => next { visit with user := some user }
  | .error e => pure e.response

/-- The user that a guard found. -/
def Visit.requireUser (visit : Visit) : Except AuthError User :=
  match visit.user with
  | some user => .ok user
  | none => .error .missingHeader

/-- A handler that needs to know the user. -/
def withUserM (handle : User → m Response) (visit : Visit) : m Response :=
  match visit.requireUser with
  | .ok user => handle user
  | .error e => pure e.response

end Effects

/-- Let a request pass to a handler that does nothing but answer. -/
def requireAuth (verifier : Verifier) (now : Int64) (next : Handler) : Handler :=
  requireAuthM (m := Id) verifier now next

/-- A handler that needs to know the user and does nothing but answer. -/
def withUser (handle : User → Response) : Handler := withUserM (m := Id) handle

def showUser (user : User) : Response := .json 200 user.toJson

/-- Answer with the user whom the token of a request names. -/
def verifyHandler (verifier : Verifier) (now : Int64) : Handler := fun visit =>
  match authenticate verifier now visit.headers with
  | .ok user => showUser user
  | .error e => e.response

end Gatehouse.Token
