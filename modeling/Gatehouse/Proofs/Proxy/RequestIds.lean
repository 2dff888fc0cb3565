import Gatehouse.Proofs.Proxy.Outcomes
import Gatehouse.Proofs.Proxy.Routing
import Gatehouse.Proofs.Relay.Answers

/-!
# Identifiers of requests

A request is handled under one identifier, the first that it brings or else a new one. A service gets it
with the call, and the client gets it with every answer that the gateway gives itself. It comes last,
though: an identifier that a service puts into its own answer is relayed as any other field, and then none
is added.
-/

namespace Gatehouse.Proxy

open Http (FieldName FieldValue Headers Response)
open Metrics (Ledger)
open Relay (isForwarded isRelayed requestFields responseFields)
open Route (Target)

/-- The identifier that a request is handled under, given a new one. -/
def Request.idOr (request : Request) (newId : FieldValue) : FieldValue :=
  (request.headers.get? .requestId).getD newId

theorem Rejection.values_requestId (rejection : Rejection) :
    rejection.response.headers.values .requestId = [] := by
  have hfields : rejection.response.headers =
      Headers.empty.append .contentType (.ofPlain "application/json") := rfl
  rw [hfields]
  decide

namespace Gateway

theorem get?_identified (newId : FieldValue) (request : Request) :
    (identified newId request).headers.get? .requestId = some (request.idOr newId) := by
  rw [identified, Headers.get?, Headers.values_insertIfAbsent, Request.idOr, Headers.get?]
  cases request.headers.values .requestId with
  | nil => rfl
  | cons first rest => rfl

/-- An answer is given the identifier of its request where it has none. -/
theorem values_withRequestId {request : Request} {id : FieldValue}
    (hid : request.headers.get? .requestId = some id) (headers : Headers) :
    (withRequestId request headers).values .requestId =
      if headers.values .requestId = [] then [id] else headers.values .requestId := by
  rw [withRequestId, hid]
  dsimp only
  rw [Headers.values_insertIfAbsent]
  simp only [true_and]

section

variable {gateway : Gateway} {network : Network} {request : Request}

/-- A service gets the identifiers of the request as they are. -/
theorem values_requestId_of_mem_calls {call : Call}
    (hcall : call ∈ (gateway.forward network request).calls) :
    call.headers.values .requestId = request.headers.values .requestId := by
  have hkept : isForwarded .requestId = true := by decide
  rw [(sends_of_mem_calls hcall).headers_eq, requestFields, Headers.values_filterNames, if_pos hkept]

/-- An answer has the identifiers that a service gave it, and none when no service did. -/
def HasRelayedIds (gateway : Gateway) (network : Network) (answer : Answer) : Prop :=
  (∀ reply, gateway.Receives network answer.calls reply →
    answer.response.headers.values .requestId = reply.headers.values .requestId) ∧
  ((∀ reply, ¬gateway.Receives network answer.calls reply) →
    answer.response.headers.values .requestId = [])

theorem hasRelayedIds_handle (gateway : Gateway) (network : Network) (ledger : Ledger)
    (request : Request) : gateway.HasRelayedIds network (gateway.handle network ledger request) := by
  constructor
  · intro reply hreply
    have hrelayed : isRelayed .requestId = true := by decide
    rw [response_handle, Forwarded.response, outcome_of_receives hreply]
    dsimp only [relay]
    rw [Relay.values_responseFields, if_pos hrelayed, if_neg (by decide), if_neg (by decide),
      List.append_nil, List.append_nil]
  · intro hnone
    rw [response_handle, Forwarded.response]
    cases houtcome : (gateway.forward network request).outcome with
    | ok response =>
        obtain ⟨reply, hreply⟩ := exists_receives_of_outcome houtcome
        exact absurd hreply (hnone reply)
    | error rejection => exact rejection.values_requestId

/-- Without a call an answer has no identifier of a service. -/
theorem hasRelayedIds_of_no_call {response : Response} (ledger : Ledger)
    (hnone : response.headers.values .requestId = []) :
    gateway.HasRelayedIds network ⟨response, [], ledger⟩ := by
  refine ⟨?_, fun _ => hnone⟩
  rintro reply ⟨call, hcall, -⟩
  cases hcall

theorem hasRelayedIds_dispatch (gateway : Gateway) (network : Network) (ledger : Ledger)
    (request : Request) : gateway.HasRelayedIds network (gateway.dispatch network ledger request) := by
  have hhandled := gateway.hasRelayedIds_handle network ledger request
  rw [dispatch]
  split
  · rw [handleHealth]
    split
    · exact hasRelayedIds_of_no_call ledger (by decide)
    · have hallow : FieldName.allow ≠ .requestId := by decide
      unfold HasRelayedIds at hhandled ⊢
      dsimp only
      rw [Headers.values_insertIfAbsent_of_ne hallow]
      exact hhandled
  · split
    · exact hhandled
    · exact hasRelayedIds_of_no_call ledger rfl

end

/-! ## The whole router -/

/-- A call that the router makes is one that its relaying makes. -/
theorem mem_calls_of_dispatch {gateway : Gateway} {network : Network} {ledger : Ledger}
    {request : Request} {call : Call} (hcall : call ∈ (gateway.dispatch network ledger request).calls) :
    call ∈ (gateway.forward network request).calls := by
  rw [dispatch] at hcall
  split at hcall
  · rw [handleHealth] at hcall
    split at hcall
    · cases hcall
    · exact hcall
  · split at hcall
    · exact hcall
    · cases hcall

theorem values_requestId_answer (gateway : Gateway) (network : Network) (newId : FieldValue)
    (ledger : Ledger) (request : Request) :
    (gateway.answer network newId ledger request).response.headers.values .requestId =
      if (gateway.dispatch network ledger (identified newId request)).response.headers.values
        .requestId = [] then [request.idOr newId]
      else (gateway.dispatch network ledger (identified newId request)).response.headers.values
        .requestId := by
  have hlength : FieldName.contentLength ≠ .requestId := by decide
  rw [answer]
  dsimp only [Response.framed]
  rw [values_withRequestId (get?_identified newId request), Headers.values_insertIfAbsent_of_ne hlength]

/-- Whatever a request brings and however the services behave: a service is called under the identifier of
the request as the first one, which is its own or else the new one, and the client's answer carries this
identifier alone, unless a service answered with identifiers of its own, which are then what the client
gets. So the client gets the identifier of its request exactly if no service answers with another one. -/
theorem answer_requestId (gateway : Gateway) (network : Network) (newId : FieldValue)
    (ledger : Ledger) (request : Request) :
    let answer := gateway.answer network newId ledger request
    let id := request.idOr newId
    (∀ call ∈ answer.calls, call.headers.get? .requestId = some id) ∧
      (∀ reply, gateway.Receives network answer.calls reply →
        answer.response.headers.values .requestId =
          if reply.headers.values .requestId = [] then [id] else reply.headers.values .requestId) ∧
      ((∀ reply, ¬gateway.Receives network answer.calls reply) →
        answer.response.headers.values .requestId = [id]) ∧
      (answer.response.headers.get? .requestId = some id ↔
        ∀ reply, gateway.Receives network answer.calls reply →
          ∀ other, reply.headers.get? .requestId = some other → other = id) := by
  intro answer id
  obtain ⟨hreceived, hunreceived⟩ :=
    gateway.hasRelayedIds_dispatch network ledger (identified newId request)
  have hvalues := gateway.values_requestId_answer network newId ledger request
  have hrelayed : ∀ reply, gateway.Receives network answer.calls reply →
      answer.response.headers.values .requestId =
        if reply.headers.values .requestId = [] then [id] else reply.headers.values .requestId := by
    intro reply hreply
    rw [hreceived reply hreply] at hvalues
    exact hvalues
  have hown : (∀ reply, ¬gateway.Receives network answer.calls reply) →
      answer.response.headers.values .requestId = [id] := by
    intro hnone
    rw [hunreceived hnone] at hvalues
    exact hvalues
  refine ⟨?_, hrelayed, hown, ?_⟩
  · intro call hcall
    rw [Headers.get?, values_requestId_of_mem_calls (mem_calls_of_dispatch hcall)]
    exact get?_identified newId request
  · rw [Headers.get?]
    constructor
    · intro hfirst reply hreply other hother
      have hbrought : reply.headers.values .requestId ≠ [] := by
        intro hnone
        rw [Headers.get?, hnone] at hother
        cases hother
      rw [hrelayed reply hreply, if_neg hbrought] at hfirst
      exact Option.some.inj (hother.symm.trans hfirst)
    · intro hsame
      by_cases hany : ∃ reply, gateway.Receives network answer.calls reply
      · obtain ⟨reply, hreply⟩ := hany
        rw [hrelayed reply hreply]
        cases hbrought : reply.headers.values .requestId with
        | nil => rfl
        | cons first rest =>
            have hfirst : reply.headers.get? .requestId = some first := by
              rw [Headers.get?, hbrought]
              rfl
            rw [if_neg (List.cons_ne_nil first rest), hsame reply hreply first hfirst]
            rfl
      · rw [hown fun reply hreply => hany ⟨reply, hreply⟩]
        rfl

/-- A request with an identifier that no gateway answers itself for its path. -/
def markedRequest : Request :=
  { healthRequest .post with headers := Headers.empty.append .requestId (.ofPlain "req-42") }

/-- Services that answer at once, with an identifier of their own. -/
def markingNetwork : Network := fun _ =>
  .ends [] (.ok (⟨200, Headers.empty.append .requestId (.ofPlain "service-1")⟩, .ends [] (.ok [])))

theorem exists_receives_marked : ∃ gateway : Gateway, ∃ call reply,
    (gateway.answer markingNetwork (.ofPlain "new") {} markedRequest).calls = [call] ∧
      gateway.Receives markingNetwork [call] reply ∧
      reply.headers.values .requestId = [.ofPlain "service-1"] := by
  obtain ⟨gateway, hurl⟩ := exists_toOne
  have hother : ¬(identified (.ofPlain "new") markedRequest).IsHealthCheck :=
    Request.not_isHealthCheck_of_post rfl
  obtain ⟨hcalls, -, -⟩ :=
    gateway.dispatch_of_not_isHealthCheck markingNetwork {} _ rfl hother
  obtain ⟨hsent, -⟩ := gateway.handle_of_mem markingNetwork {}
    (identified (.ofPlain "new") markedRequest) (by decide) (Nat.zero_le _) rfl
  have husable : Http.RequestTarget.parse? (gateway.table.resolve healthPath none).url ≠ none := by
    rw [hurl]
    exact parse?_healthUrl
  exact ⟨gateway, _, _, hcalls.trans (hsent husable),
    ⟨_, List.mem_singleton_self _, 0, .whole [] [] _ [], Nat.zero_le _⟩, by decide⟩

/-- A service is called under the client's identifier and answers with its own, which the client gets. -/
theorem answer_requestId_marked : ∃ gateway : Gateway, ∃ call reply,
    let answer := gateway.answer markingNetwork (.ofPlain "new") {} markedRequest
    answer.calls = [call] ∧ gateway.Receives markingNetwork answer.calls reply ∧
      call.headers.get? .requestId = some (.ofPlain "req-42") ∧
      answer.response.headers.values .requestId = [.ofPlain "service-1"] := by
  obtain ⟨gateway, call, reply, hcalls, hreply, hbrought⟩ := exists_receives_marked
  obtain ⟨hcalled, hrelayed, -, -⟩ :=
    answer_requestId gateway markingNetwork (.ofPlain "new") {} markedRequest
  rw [← hcalls] at hreply
  refine ⟨gateway, call, reply, hcalls, hreply, hcalled call ?_, ?_⟩
  · rw [hcalls]
    exact List.mem_singleton_self call
  · rw [hrelayed reply hreply, hbrought]
    rfl

/-- A client does not always get the identifier under which a service was called. -/
theorem not_answer_requestId :
    ¬∀ (gateway : Gateway) (network : Network) (newId : FieldValue) (ledger : Ledger)
      (request : Request), ∀ call ∈ (gateway.answer network newId ledger request).calls,
      (gateway.answer network newId ledger request).response.headers.get? .requestId =
        call.headers.get? .requestId := by
  intro halways
  obtain ⟨gateway, call, reply, hcalls, hreply, hbrought⟩ := exists_receives_marked
  have hmem : call ∈ (gateway.answer markingNetwork (.ofPlain "new") {} markedRequest).calls := by
    rw [hcalls]
    exact List.mem_singleton_self call
  have hsame := halways gateway markingNetwork (.ofPlain "new") {} markedRequest call hmem
  obtain ⟨hreceived, -⟩ := gateway.hasRelayedIds_dispatch markingNetwork {}
    (identified (.ofPlain "new") markedRequest)
  rw [← hcalls] at hreply
  rw [Headers.get?, Headers.get?, values_requestId_answer, hreceived reply hreply, hbrought,
    values_requestId_of_mem_calls (mem_calls_of_dispatch hmem)] at hsame
  exact absurd hsame (by decide)

end Gateway

end Gatehouse.Proxy
