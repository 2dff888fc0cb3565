import Gatehouse.Proofs.Proxy.Reference

/-!
# Who answers a request

Every request whose target is a path is refused for its method, answered as a health check, or sent on to
a service. A health check is a GET or a HEAD of one path: of the methods that are sent on, these two never
reach a service on that path, and all others do as on any other path.
-/

namespace Gatehouse.Proxy

open Http (FieldValue Method RequestTarget Response)
open Metrics (Ledger)
open Relay (requestFields)
open Route (Target)

/-- The requests that the gateway answers to tell that it is alive. -/
def Request.IsHealthCheck (request : Request) : Prop :=
  request.target.path = healthPath ∧ (request.method = .get ∨ request.method = .head)

/-- A health check has a method that is sent on elsewhere. -/
theorem Request.IsHealthCheck.mem_forwardedMethods {request : Request}
    (hcheck : request.IsHealthCheck) : request.method ∈ forwardedMethods := by
  rw [mem_forwardedMethods_iff]
  rcases hcheck.2 with hmethod | hmethod
  · rw [hmethod]
    exact List.mem_cons_self
  · rw [hmethod]
    exact List.mem_of_getLast? rfl

theorem Request.not_isHealthCheck_of_post {request : Request} (hpost : request.method = .post) :
    ¬request.IsHealthCheck := by
  rw [Request.IsHealthCheck, hpost]
  exact fun hcheck => absurd hcheck.2 (by decide)

namespace Gateway

section

variable (gateway : Gateway) (network : Network) (ledger : Ledger) (request : Request)

/-! ## By path and method -/

theorem dispatch_of_isHealthCheck (hcheck : request.IsHealthCheck) :
    gateway.dispatch network ledger request = ⟨healthResponse, [], ledger⟩ := by
  rw [dispatch, if_pos hcheck.1, handleHealth, if_pos hcheck.2]

/-- Any other request is handled as a whole. Nothing but the fields of the answer depends on the path. -/
theorem dispatch_of_not_isHealthCheck (hpath : request.target.path.toList.head? = some '/')
    (hother : ¬request.IsHealthCheck) :
    let dispatched := gateway.dispatch network ledger request
    let handled := gateway.handle network ledger request
    dispatched.calls = handled.calls ∧ dispatched.response.status = handled.response.status ∧
      dispatched.response.body = handled.response.body := by
  intro dispatched handled
  unfold dispatched
  rw [dispatch]
  by_cases hhealth : request.target.path = healthPath
  · rw [if_pos hhealth, handleHealth, if_neg fun hmethod => hother ⟨hhealth, hmethod⟩]
    exact ⟨rfl, rfl, rfl⟩
  · rw [if_neg hhealth, if_pos hpath]
    exact ⟨rfl, rfl, rfl⟩

/-! ## What is handled -/

theorem handle_of_not_mem (hmethod : request.method ∉ forwardedMethods) :
    (gateway.handle network ledger request).calls = [] ∧
      (gateway.handle network ledger request).response = .error 405 "Method not allowed" := by
  have hcycle : gateway.Cycle network request [] (.error 405 "Method not allowed") :=
    .methodRefused hmethod
  obtain ⟨hcalls, hresponse⟩ := hcycle.handle_eq ledger
  exact ⟨hcalls.symm, hresponse.symm⟩

/-- A request that may be sent on is sent to the URL that its path resolves to, as long as that is a target
of a request. -/
theorem handle_of_mem (hmethod : request.method ∈ forwardedMethods)
    (hsize : request.body.frames.flatten.length ≤ gateway.maxBodySize)
    (hunbroken : request.body.broken = false) :
    let url := (gateway.table.resolve request.target.path request.target.query).url
    (RequestTarget.parse? url ≠ none → (gateway.handle network ledger request).calls =
        [⟨request.method, url, requestFields request.headers, request.body.frames.flatten⟩]) ∧
      (RequestTarget.parse? url = none → (gateway.handle network ledger request).calls = [] ∧
        (gateway.handle network ledger request).response =
          .error 502 "Downstream service unavailable") := by
  intro url
  constructor
  · intro husable
    have hsends : gateway.Sends request (gateway.callOf request request.body.frames.flatten) :=
      ⟨hmethod, hsize, hunbroken, husable, rfl, rfl, rfl, rfl⟩
    exact (forward_of_sends hsends).1
  · intro hunusable
    have hcycle : gateway.Cycle network request [] (.error 502 "Downstream service unavailable") :=
      .urlUnusable hmethod hsize hunbroken hunusable
    obtain ⟨hcalls, hresponse⟩ := hcycle.handle_eq ledger
    exact ⟨hcalls.symm, hresponse.symm⟩

end

/-! ## The whole router -/

/-- Every request whose target is a path is answered in one of three ways. A method that is not sent on is
refused on every path. A GET or a HEAD on the path of the health check is answered by the gateway itself.
Every other request makes exactly one call, of its own method and with its body, to the URL that its path
and query resolve to; where that is no target of a request, it makes none. -/
theorem answer_routes (gateway : Gateway) (network : Network) (newId : FieldValue) (ledger : Ledger)
    (request : Request) (hpath : request.target.path.toList.head? = some '/')
    (hsize : request.body.frames.flatten.length ≤ gateway.maxBodySize)
    (hunbroken : request.body.broken = false) :
    let answer := gateway.answer network newId ledger request
    let url := (gateway.table.resolve request.target.path request.target.query).url
    (request.method ∉ forwardedMethods → answer.calls = [] ∧ answer.response.status = 405 ∧
        answer.response.body = (Response.error 405 "Method not allowed").body) ∧
      (request.IsHealthCheck → answer.calls = [] ∧ answer.response.status = 200 ∧
        answer.response.body = if request.method = .head then [] else healthResponse.body) ∧
      (request.method ∈ forwardedMethods → ¬request.IsHealthCheck →
        (RequestTarget.parse? url ≠ none → answer.calls =
          [⟨request.method, url, requestFields (identified newId request).headers,
            request.body.frames.flatten⟩]) ∧
        (RequestTarget.parse? url = none → answer.calls = [] ∧ answer.response.status = 502)) := by
  intro answer url
  -- A request that is given an identifier keeps its method, its target and its body.
  let known := identified newId request
  have hbody : answer.response.body =
      if request.method = .head then [] else (gateway.dispatch network ledger known).response.body := rfl
  refine ⟨fun hmethod => ?_, fun hcheck => ?_, fun hmethod hother => ?_⟩
  · have hother : ¬known.IsHealthCheck := fun hcheck => hmethod hcheck.mem_forwardedMethods
    have hhead : request.method ≠ .head := fun hhead => hmethod (hhead ▸ by decide)
    obtain ⟨hcalls, hstatus, hwritten⟩ :=
      gateway.dispatch_of_not_isHealthCheck network ledger known hpath hother
    obtain ⟨hnone, hrefused⟩ := gateway.handle_of_not_mem network ledger known hmethod
    rw [hnone] at hcalls
    rw [hrefused] at hstatus hwritten
    exact ⟨hcalls, hstatus, by rw [hbody, if_neg hhead, hwritten]⟩
  · have hdispatch := gateway.dispatch_of_isHealthCheck network ledger known hcheck
    rw [hdispatch] at hbody
    exact ⟨congrArg Answer.calls hdispatch, congrArg (·.response.status) hdispatch, hbody⟩
  · obtain ⟨hcalls, hstatus, -⟩ :=
      gateway.dispatch_of_not_isHealthCheck network ledger known hpath hother
    obtain ⟨hsent, hunsent⟩ := gateway.handle_of_mem network ledger known hmethod hsize hunbroken
    refine ⟨fun husable => hcalls.trans (hsent husable), fun hunusable => ?_⟩
    obtain ⟨hnone, hfailed⟩ := hunsent hunusable
    rw [hnone] at hcalls
    rw [hfailed] at hstatus
    exact ⟨hcalls, hstatus⟩

/-- A request for the path of the health check, without fields and body. -/
def healthRequest (method : Method) : Request :=
  ⟨method, ⟨none, none, healthPath, none⟩, .empty, .ofBytes []⟩

/-- A gateway to one service that takes every path. -/
def toOne (service : Target) (hall : service.pathPrefix.isCatchAll = true) : Gateway where
  table :=
    { targets := [service]
      ordered := List.pairwise_singleton _ service
      distinct := List.pairwise_singleton _ service.pathPrefix
      catchAll := ⟨0, Nat.zero_lt_one⟩
      catchAll_isCatchAll := hall }
  deadline := 1000
  maxBodySize := 0
  tls := false

theorem exists_toOne : ∃ gateway : Gateway,
    (gateway.table.resolve healthPath none).url = "http://tasks.test/api/health" := by
  have hresolved : ((Target.create "frontend" "/" "http://tasks.test").toOption.bind fun service =>
      if hall : service.pathPrefix.isCatchAll = true then
        some ((toOne service hall).table.resolve healthPath none).url
      else none) = some "http://tasks.test/api/health" := by
    decide +kernel
  obtain ⟨service, -, hurl⟩ := Option.bind_eq_some_iff.1 hresolved
  split at hurl
  · exact ⟨_, Option.some.inj hurl⟩
  · cases hurl

theorem parse?_healthUrl : RequestTarget.parse? "http://tasks.test/api/health" ≠ none := by
  decide +kernel

/-- On the path of the health check a POST is sent on. -/
theorem answer_routes_post : ∃ gateway : Gateway,
    (gateway.answer (fun _ => .stalls) (.ofPlain "1") {} (healthRequest .post)).calls =
      [⟨.post, "http://tasks.test/api/health",
        requestFields (identified (.ofPlain "1") (healthRequest .post)).headers, []⟩] := by
  obtain ⟨gateway, hurl⟩ := exists_toOne
  have hother : ¬(healthRequest .post).IsHealthCheck := by
    rintro ⟨-, hmethod | hmethod⟩
    · exact absurd hmethod (by decide)
    · exact absurd hmethod (by decide)
  have hsent := (answer_routes gateway (fun _ => .stalls) (.ofPlain "1") {} (healthRequest .post) rfl
    (Nat.zero_le _) rfl).2.2 (by decide) hother
  dsimp only [healthRequest] at hsent
  rw [hurl] at hsent
  exact ⟨gateway, hsent.1 parse?_healthUrl⟩

/-- A HEAD on the path of the health check is not sent on, though HEAD is sent on elsewhere and the path
resolves to a URL that can be called. -/
theorem not_answer_routes_head :
    ¬∀ (gateway : Gateway) (network : Network) (newId : FieldValue) (ledger : Ledger)
      (request : Request), request.target.path.toList.head? = some '/' →
      request.body.frames.flatten.length ≤ gateway.maxBodySize → request.body.broken = false →
      RequestTarget.parse?
        (gateway.table.resolve request.target.path request.target.query).url ≠ none →
      request.method ∈ forwardedMethods → request.method ≠ .get →
      ∃ call, (gateway.answer network newId ledger request).calls = [call] := by
  intro halways
  obtain ⟨gateway, hurl⟩ := exists_toOne
  obtain ⟨call, hcall⟩ := halways gateway (fun _ => .stalls) (.ofPlain "1") {} (healthRequest .head)
    rfl (Nat.zero_le _) rfl (hurl ▸ parse?_healthUrl) (by decide) (by decide)
  have hcheck : (identified (.ofPlain "1") (healthRequest .head)).IsHealthCheck := ⟨rfl, .inr rfl⟩
  have hnone := congrArg Answer.calls
    (gateway.dispatch_of_isHealthCheck (fun _ => .stalls) {} _ hcheck)
  cases hcall.symm.trans hnone

end Gateway

end Gatehouse.Proxy
