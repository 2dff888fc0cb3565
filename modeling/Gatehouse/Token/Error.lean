import Gatehouse.Token.Payload

/-!
# Why a token is refused

A token that was asked for cannot be issued, or one that was shown is not accepted. The reasons are
for logs: callers outside are told no more than that the token is not valid.
-/

namespace Gatehouse.Token

/-- What is wrong with a request for a token. -/
inductive InputProblem where
  | userId
  | username
  | expiryHours
  /-- The token would expire after the last second there is. -/
  | overflow
deriving DecidableEq, Repr

def InputProblem.message : InputProblem → String
  | .userId => "user_id must be a positive integer"
  | .username => "username must be a non-empty string"
  | .expiryHours => "expiry_hours must be a positive integer"
  | .overflow => "token lifetime overflows the expiry timestamp"

/-- Why a token is not issued or not accepted. -/
inductive TokenError where
  | invalidInput (problem : InputProblem)
  /-- The key set has no key to sign with. -/
  | signingKeyUnavailable
  /-- The token is not made of three encoded parts. -/
  | malformed
  | signature
  | algorithm
  | claims (problem : ClaimProblem)
  | expired
  | invalidClaim (problem : IdentityProblem)
  /-- The key to sign with cannot be used. -/
  | signing
deriving DecidableEq, Repr

/-- The error in words, where they do not depend on what was found. -/
def TokenError.message? : TokenError → Option String
  | .invalidInput problem => some problem.message
  | .signingKeyUnavailable => some "key set cannot sign (verification key only)"
  | .malformed => some "token is not a well-formed JWT"
  | .signature => some "token signature is invalid"
  | .algorithm => some "token algorithm is not accepted"
  | .claims problem => problem.message?
  | .expired => some "token has expired"
  | .invalidClaim problem => some ("token claim is invalid: " ++ problem.message)
  | .signing => none

end Gatehouse.Token
