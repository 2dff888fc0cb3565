import Gatehouse.Http.Response

/-!
# Answers of the gateway's own

A request that is not relayed is answered by the gateway itself: because it should not be relayed, or
because the service behind it did not answer. Both failures of a service have one status and differ in
their message.
-/

namespace Gatehouse.Proxy

open Http (Response)

/-- Why the gateway answers a request itself. -/
inductive Rejection where
  /-- The service did not answer in time. -/
  | timeout
  /-- The service could not be asked, or its answer could not be read. -/
  | unavailable
  | methodNotAllowed
  | payloadTooLarge
  /-- The body of the request could not be read. -/
  | invalidBody
deriving DecidableEq, Repr

namespace Rejection

def message : Rejection → String
  | .timeout => "Downstream request timed out"
  | .unavailable => "Downstream service unavailable"
  | .methodNotAllowed => "Method not allowed"
  | .payloadTooLarge => "Request body too large"
  | .invalidBody => "Could not read request body"

def status : Rejection → Nat
  | .timeout => 502
  | .unavailable => 502
  | .methodNotAllowed => 405
  | .payloadTooLarge => 413
  | .invalidBody => 400

/-- The label in logs and metrics. -/
def kind : Rejection → String
  | .timeout => "timeout"
  | .unavailable => "unavailable"
  | .methodNotAllowed => "method_not_allowed"
  | .payloadTooLarge => "payload_too_large"
  | .invalidBody => "invalid_body"

/-- Whether a service failed, rather than the request. -/
def isServiceFailure : Rejection → Bool
  | .timeout => true
  | .unavailable => true
  | _ => false

def response (rejection : Rejection) : Response := .error rejection.status rejection.message

end Rejection

end Gatehouse.Proxy
