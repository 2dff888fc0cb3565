import Gatehouse.Metrics.Counter
import Gatehouse.Number.Decimal

/-!
# What the gateway counts

Requests by method, status and service, their durations by service, and exchanges that failed by the
kind of failure. `lines` shows the counts, one line each, in the order of the lines.
-/

namespace Gatehouse.Metrics

structure RequestLabels where
  method : String
  status : Nat
  service : String
deriving DecidableEq, Repr

/-- All counts of a gateway. -/
structure Ledger where
  requests : Counter RequestLabels := {}
  durations : Counter String := {}
  failures : Counter String := {}
deriving DecidableEq, Repr

namespace Ledger

def recordRequest (ledger : Ledger) (labels : RequestLabels) : Ledger :=
  { ledger with
    requests := ledger.requests.increment labels
    durations := ledger.durations.increment labels.service }

def recordFailure (ledger : Ledger) (kind : String) : Ledger :=
  { ledger with failures := ledger.failures.increment kind }

/-- A line with the name of a counter, its labels and its count. -/
def line (name : String) (labels : List (String × String)) (count : Nat) : String :=
  let shown := labels.map fun (label, value) => label ++ "=\"" ++ value ++ "\""
  name ++ "\x7b" ++ ",".intercalate shown ++ "\x7d " ++ String.ofList (Number.digits count)

def requestLine (labels : RequestLabels) (count : Nat) : String :=
  line "gateway_requests_total"
    [("method", labels.method), ("status", String.ofList (Number.digits labels.status)),
      ("upstream", labels.service)] count

/-- All counts as sorted lines. -/
def lines (ledger : Ledger) : List String :=
  let requests := ledger.requests.cells.map fun (labels, count) => requestLine labels count
  let durations := ledger.durations.cells.map fun (service, count) =>
    line "gateway_request_duration_seconds_count" [("upstream", service)] count
  let failures := ledger.failures.cells.map fun (kind, count) =>
    line "gateway_upstream_errors_total" [("kind", kind)] count
  (requests ++ durations ++ failures).mergeSort fun a b => a ≤ b

end Ledger

end Gatehouse.Metrics
