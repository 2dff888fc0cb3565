import Gatehouse.Config.Settings
import Gatehouse.Http.RequestTarget
import Gatehouse.Metrics.Ledger
import Gatehouse.Proxy.Body
import Gatehouse.Proxy.Exchange
import Gatehouse.Relay.Fields
import Gatehouse.Route.Services

/-!
# The proxy cycle

A request is checked, routed and read, then sent to a service once, and what the service answers goes
back to the client. `forward` gives the outcome together with the calls that were made, so that "no
exchange was started" can be said of it. The checks come in a fixed order: the method, the body, the
URL to call, the exchange.
-/

namespace Gatehouse.Proxy

open Http (Headers Method RequestTarget Response)
open Metrics (Ledger)
open Relay (Origin requestFields responseFields)
open Route (RouteError Table)

/-- A request as it reaches the gateway. -/
structure Request where
  method : Method
  target : RequestTarget
  headers : Headers
  body : Body
deriving DecidableEq, Repr

/-- What is sent to a service. -/
structure Call where
  method : Method
  url : String
  headers : Headers
  body : Bytes
deriving DecidableEq, Repr

/-- The head of a service's answer. -/
structure Head where
  status : Nat
  headers : Headers
deriving DecidableEq, Repr

/-- The services behind the gateway: how each call goes, up to the head of the answer and then through
the frames of its body. -/
abbrev Network := Call → Exchange (Head × Exchange (List Bytes))

/-- The whole exchange of a call. Which of its two parts failed is told by an error around the error of
that part. -/
def Network.exchange (network : Network) (call : Call) : Exchange Response :=
  ((network call).mapOutcome (·.mapError .causedBy)).andThen fun (head, body) =>
    body.mapOutcome fun collected =>
      (collected.mapError .causedBy).map fun frames => ⟨head.status, head.headers, frames.flatten⟩

/-- A gateway that is ready to relay. -/
structure Gateway where
  table : Table
  /-- How long an exchange may take, in milliseconds. -/
  deadline : Nat
  maxBodySize : Nat
  /-- Whether clients reach the gateway over TLS. -/
  tls : Bool

def Gateway.ofSettings (settings : Config.Settings) : Except RouteError Gateway :=
  (Table.ofServices settings.services).map fun table =>
    { table
      deadline := settings.timeouts.proxySecs.toNat * 1000
      maxBodySize := settings.security.maxBodySize.toNat
      tls := settings.listener.tls.isSome }

/-- The methods that are sent on. -/
def forwardedMethods : List Method := [.get, .post, .put, .patch, .delete, .head]

/-- Six methods are sent on, told by their names. -/
theorem mem_forwardedMethods_iff {method : Method} :
    method ∈ forwardedMethods ↔
      method.name ∈ ["GET", "POST", "PUT", "PATCH", "DELETE", "HEAD"] := by
  have hnames : forwardedMethods.map Method.name =
      ["GET", "POST", "PUT", "PATCH", "DELETE", "HEAD"] := rfl
  rw [← hnames]
  constructor
  · exact List.mem_map_of_mem
  · intro hname
    obtain ⟨known, hknown, hsame⟩ := List.mem_map.1 hname
    exact Method.name_injective hsame ▸ hknown

/-- The label of requests that are not routed at all. -/
def noService : String := "none"

/-- What became of a request. -/
structure Forwarded where
  /-- The name of the service that the request was routed to. -/
  service : String
  /-- The calls that were made. -/
  calls : List Call
  outcome : Except Rejection Response

namespace Gateway

/-- The answer of a service as the client gets it. -/
def relay (gateway : Gateway) (request : Request) (answer : Response) : Response :=
  { answer with
    headers :=
      responseFields answer.headers (.ofRequest request.target request.headers gateway.tls) }

/-- The call for a request whose body was read. -/
def callOf (gateway : Gateway) (request : Request) (body : Bytes) : Call where
  method := request.method
  url := (gateway.table.resolve request.target.path request.target.query).url
  headers := requestFields request.headers
  body

def forward (gateway : Gateway) (network : Network) (request : Request) : Forwarded :=
  if request.method ∉ forwardedMethods then ⟨noService, [], .error .methodNotAllowed⟩
  else
    let service := (gateway.table.resolve request.target.path request.target.query).target.name
    match request.body.read gateway.maxBodySize with
    | .error rejection => ⟨service, [], .error rejection⟩
    | .ok body =>
      let call := gateway.callOf request body
      match RequestTarget.parse? call.url with
      | none => ⟨service, [], .error .unavailable⟩
      | some _ =>
        let answer := (network.exchange call).within gateway.deadline
        ⟨service, [call], answer.map (gateway.relay request)⟩

end Gateway

def Forwarded.response (forwarded : Forwarded) : Response :=
  match forwarded.outcome with
  | .ok response => response
  | .error rejection => rejection.response

/-- Count a request that was relayed or rejected. -/
def Forwarded.record (forwarded : Forwarded) (method : Method) (ledger : Ledger) : Ledger :=
  let counted :=
    match forwarded.outcome with
    | .ok _ => ledger
    | .error rejection =>
      if rejection.isServiceFailure then ledger.recordFailure rejection.kind else ledger
  counted.recordRequest ⟨method.name, forwarded.response.status, forwarded.service⟩

end Gatehouse.Proxy
