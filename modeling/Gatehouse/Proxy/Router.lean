import Gatehouse.Proxy.Cycle

/-!
# The gateway's router

Every request gets an identifier unless it brings one, and the answer carries it back. The gateway
answers one path itself, to tell that it is alive; every other path is relayed. A target that is no
path has no route.
-/

namespace Gatehouse.Proxy

open Http (FieldValue Headers Response)
open Metrics (Ledger)

/-- The path that the gateway answers itself. -/
def healthPath : String := "/api/health"

def healthResponse : Response :=
  .json 200 (.obj [("service", .str "gateway"), ("status", .str "healthy")])

/-- What a client is answered, the calls made for it, and the counts after it. -/
structure Answer where
  response : Response
  calls : List Call
  ledger : Ledger

namespace Gateway

/-- Relay a request and count it. -/
def handle (gateway : Gateway) (network : Network) (ledger : Ledger) (request : Request) : Answer :=
  let forwarded := gateway.forward network request
  ⟨forwarded.response, forwarded.calls, forwarded.record request.method ledger⟩

/-- Answer a request on the path of the health check. Methods that are relayed all the same are told
which ones are not. -/
def handleHealth (gateway : Gateway) (network : Network) (ledger : Ledger) (request : Request) :
    Answer :=
  if request.method = .get ∨ request.method = .head then ⟨healthResponse, [], ledger⟩
  else
    let answer := gateway.handle network ledger request
    { answer with
      response.headers := answer.response.headers.insertIfAbsent .allow (.ofPlain "GET,HEAD") }

/-- Answer a request by its path. -/
def dispatch (gateway : Gateway) (network : Network) (ledger : Ledger) (request : Request) :
    Answer :=
  if request.target.path = healthPath then gateway.handleHealth network ledger request
  else if request.target.path.toList.head? = some '/' then gateway.handle network ledger request
  else ⟨.bare 404, [], ledger⟩

/-- The request with an identifier, the one it brings or a new one. -/
def identified (newId : FieldValue) (request : Request) : Request :=
  { request with headers := request.headers.insertIfAbsent .requestId newId }

/-- The fields of an answer with the identifier of the request, unless the answer has one. -/
def withRequestId (request : Request) (headers : Headers) : Headers :=
  match request.headers.get? .requestId with
  | some id => headers.insertIfAbsent .requestId id
  | none => headers

/-- Answer a request. The identifier is used if the request brings none. -/
def answer (gateway : Gateway) (network : Network) (newId : FieldValue) (ledger : Ledger)
    (request : Request) : Answer :=
  let request := identified newId request
  let answer := gateway.dispatch network ledger request
  let framed := answer.response.framed request.method
  { answer with
    response := { framed with headers := withRequestId request framed.headers } }

end Gateway

end Gatehouse.Proxy
