import Gatehouse.Relay.Location

/-!
# Fields that cross the gateway

Fields that concern one connection only are dropped in both directions, and so is the length of the
body, which is framed anew. Towards a service the host is dropped as well; towards the client a
redirect points back at the gateway and every cookie stands by itself.

There is room for 24576 values of fields at most in either direction. The readers of messages stop long
before that, so that the limit is left out here.
-/

namespace Gatehouse.Relay

open Gatehouse.Http

/-- The fields that concern one connection. The last is an older spelling of `trailer`. -/
def connectionFields : List FieldName :=
  [.connection, .keepAlive, .proxyAuthenticate, .proxyAuthorization, .te, .trailer,
    .transferEncoding, .upgrade, .trailers]

def isConnectionField (name : FieldName) : Bool := name ∈ connectionFields

/-- Whether a field of a request goes on to the service. -/
def isForwarded (name : FieldName) : Bool :=
  !isConnectionField name && name ≠ .host && name ≠ .contentLength

/-- The fields of a request as the service gets them. -/
def requestFields (headers : Headers) : Headers := headers.filterNames isForwarded

/-- Whether a field of an answer goes to the client as it is. -/
def isRelayed (name : FieldName) : Bool :=
  !isConnectionField name && name ≠ .contentLength && name ≠ .location && name ≠ .setCookie

/-- The redirect of an answer as the client gets it. A value that is no plain text stays as it is. -/
def relayedLocation (value : FieldValue) (origin : Origin) : FieldValue :=
  ((value.text?.map fun text => relocate text origin).bind FieldValue.ofString?).getD value

/-- The fields of an answer as the client gets them: the redirect and the cookies come last. -/
def responseFields (headers : Headers) (origin : Origin) : Headers :=
  let relayed := headers.filterNames isRelayed
  let redirected := match headers.get? .location with
    | some value => relayed.append .location (relayedLocation value origin)
    | none => relayed
  redirected.appendAll (headers.filterNames (· = .setCookie))

/-- The identifier that a request carries, if it is plain text. -/
def requestId (headers : Headers) : String :=
  ((headers.get? .requestId).bind FieldValue.text?).getD "unknown"

end Gatehouse.Relay
