import Gatehouse.Http.Headers
import Gatehouse.Http.RequestTarget

/-!
# Inbound origins

The scheme and host under which a client reached the gateway. They go into redirects that are sent
back to that client.
-/

namespace Gatehouse.Relay

open Gatehouse.Http

/-- The scheme and host that a client used. -/
structure Origin where
  scheme : String
  host : Option String
deriving DecidableEq, Repr

namespace Origin

/-- The host that the `Host` field names, if it is plain text and not blank. -/
def namedHost? (headers : Headers) : Option String :=
  (headers.get? .host).bind fun value =>
    value.text?.bind fun text =>
      let host := Text.trim text
      if host = "" then none else some host

/-- The origin of a request: `https` when the listener ends TLS, else the scheme of the target, else
`http`; the host of the `Host` field, else the authority of the target. -/
def ofRequest (target : RequestTarget) (headers : Headers) (tls : Bool) : Origin where
  scheme := if tls then "https" else target.scheme.getD "http"
  host := (namedHost? headers).or target.authority

end Origin

end Gatehouse.Relay
