import Gatehouse.Proofs.Proxy.Outcomes
import Gatehouse.Proofs.Proxy.Routing
import Gatehouse.Proofs.Route.Services

/-!
# Accounts of requests

Requests are counted as they are completed, each with what the services did meanwhile. Every one adds one
to a single cell, whoever answered it, and one to the failures of a kind exactly if the gateway gave a 502
of its own for a reason of this kind. So after any run the counts are those of the requests, in whatever
order they came.
-/

namespace Gatehouse.Proxy

open Http (FieldValue Headers)
open Metrics (Counter Ledger RequestLabels)
open Route (Table Target)

/-- A request that is relayed or rejected, with how each call goes meanwhile. -/
structure Visit where
  network : Network
  request : Request

theorem Rejection.isServiceFailure_iff {rejection : Rejection} :
    rejection.isServiceFailure = true ↔ rejection.status = 502 := by
  cases rejection <;> decide

/-- A failure of a service is of one of two kinds. -/
theorem Rejection.kind_of_status {rejection : Rejection} (hstatus : rejection.status = 502) :
    rejection.kind = "timeout" ∨ rejection.kind = "unavailable" := by
  cases rejection with
  | timeout => exact .inl rfl
  | unavailable => exact .inr rfl
  | _ => cases hstatus

namespace Gateway

/-- The counts after a visit. -/
def count (gateway : Gateway) (ledger : Ledger) (visit : Visit) : Ledger :=
  (gateway.handle visit.network ledger visit.request).ledger

/-- The counts after visits, in the order in which they are completed. -/
def countAll (gateway : Gateway) (ledger : Ledger) (visits : List Visit) : Ledger :=
  visits.foldl gateway.count ledger

/-- The cell of a visit: its method, the status that the client gets, and the service that its path and
query resolve to, or none for a method that is not relayed. -/
def cell (gateway : Gateway) (visit : Visit) : RequestLabels where
  method := visit.request.method.name
  status := (gateway.handle visit.network {} visit.request).response.status
  service :=
    if visit.request.method ∈ forwardedMethods then
      (gateway.table.resolve visit.request.target.path visit.request.target.query).target.name
    else noService

/-- The gateway answers a visit with a 502 of its own, for a reason of a kind. -/
def Fails (gateway : Gateway) (visit : Visit) (kind : String) : Prop :=
  ∃ rejection : Rejection, gateway.AnswersItself visit.network visit.request rejection ∧
    rejection.status = 502 ∧ rejection.kind = kind

/-! ## One visit -/

theorem fails_iff {gateway : Gateway} {visit : Visit} {kind : String} :
    gateway.Fails visit kind ↔
      ∃ rejection, (gateway.forward visit.network visit.request).outcome = .error rejection ∧
        rejection.status = 502 ∧ rejection.kind = kind := by
  simp only [Fails, outcome_eq_error_iff]

theorem not_fails_of_ok {gateway : Gateway} {visit : Visit} {response : Http.Response}
    (houtcome : (gateway.forward visit.network visit.request).outcome = .ok response) (kind : String) :
    ¬gateway.Fails visit kind := by
  intro hfails
  obtain ⟨rejection, hrejected, -⟩ := fails_iff.1 hfails
  cases houtcome.symm.trans hrejected

theorem fails_iff_of_error {gateway : Gateway} {visit : Visit} {rejection : Rejection}
    (houtcome : (gateway.forward visit.network visit.request).outcome = .error rejection)
    {kind : String} :
    gateway.Fails visit kind ↔ rejection.status = 502 ∧ rejection.kind = kind := by
  rw [fails_iff, houtcome]
  simp only [Except.error.injEq, exists_eq_left']

instance decidableFails (gateway : Gateway) (visit : Visit) (kind : String) :
    Decidable (gateway.Fails visit kind) :=
  match houtcome : (gateway.forward visit.network visit.request).outcome with
  | .ok _ => .isFalse (not_fails_of_ok houtcome kind)
  | .error rejection =>
      decidable_of_iff (rejection.status = 502 ∧ rejection.kind = kind) (fails_iff_of_error houtcome).symm

section

variable (gateway : Gateway) (ledger : Ledger) (visit : Visit)

theorem status_cell : (gateway.cell visit).status =
    (gateway.forward visit.network visit.request).response.status := rfl

theorem service_forward (network : Network) (request : Request) :
    (gateway.forward network request).service =
      if request.method ∈ forwardedMethods then
        (gateway.table.resolve request.target.path request.target.query).target.name
      else noService := by
  unfold forward
  by_cases hmethod : request.method ∈ forwardedMethods
  · rw [if_neg (not_not_intro hmethod), if_pos hmethod]
    dsimp only
    split
    · rfl
    · split
      · rfl
      · rfl
  · rw [if_pos hmethod, if_neg hmethod]

/-- A visit is counted once, in its cell, whatever its outcome. -/
theorem requests_count : (gateway.count ledger visit).requests =
    ledger.requests.increment (gateway.cell visit) := by
  have hcell : gateway.cell visit =
      ⟨visit.request.method.name, (gateway.forward visit.network visit.request).response.status,
        (gateway.forward visit.network visit.request).service⟩ := by
    rw [service_forward]
    rfl
  rw [hcell, count, handle, Forwarded.record]
  dsimp only [Ledger.recordRequest]
  split
  · rfl
  · split
    · rfl
    · rfl

/-- A visit is counted as a failure of a kind if it is one, and as no other. -/
theorem get_failures_count (kind : String) : (gateway.count ledger visit).failures.get kind =
    ledger.failures.get kind + if gateway.Fails visit kind then 1 else 0 := by
  rw [count, handle, Forwarded.record]
  dsimp only [Ledger.recordRequest]
  cases houtcome : (gateway.forward visit.network visit.request).outcome with
  | ok response =>
      rw [if_neg (not_fails_of_ok houtcome kind)]
      rfl
  | error rejection =>
      have hfails : gateway.Fails visit kind ↔ rejection.status = 502 ∧ rejection.kind = kind :=
        fails_iff_of_error houtcome
      dsimp only
      by_cases hstatus : rejection.status = 502
      · rw [if_pos (Rejection.isServiceFailure_iff.2 hstatus), Ledger.recordFailure,
          Metrics.Counter.get_increment]
        simp only [hfails, hstatus, true_and]
      · rw [if_neg (mt Rejection.isServiceFailure_iff.1 hstatus), if_neg]
        · rfl
        · exact fun hkind => hstatus (hfails.1 hkind).1

end

/-! ## Runs -/

section

variable (gateway : Gateway) (ledger : Ledger) (visits : List Visit)

theorem total_requests_countAll :
    (gateway.countAll ledger visits).requests.total = ledger.requests.total + visits.length := by
  induction visits generalizing ledger with
  | nil => rfl
  | cons visit visits ih =>
      change (gateway.countAll (gateway.count ledger visit) visits).requests.total = _
      rw [ih, requests_count, Counter.total_increment, List.length_cons, Nat.add_assoc,
        Nat.add_comm 1]

theorem get_requests_countAll (labels : RequestLabels) :
    (gateway.countAll ledger visits).requests.get labels =
      ledger.requests.get labels + visits.countP fun visit => gateway.cell visit = labels := by
  induction visits generalizing ledger with
  | nil => rfl
  | cons visit visits ih =>
      change (gateway.countAll (gateway.count ledger visit) visits).requests.get labels = _
      rw [ih, requests_count, Counter.get_increment, List.countP_cons]
      simp only [decide_eq_true_eq]
      omega

theorem get_failures_countAll (kind : String) :
    (gateway.countAll ledger visits).failures.get kind =
      ledger.failures.get kind + visits.countP fun visit => gateway.Fails visit kind := by
  induction visits generalizing ledger with
  | nil => rfl
  | cons visit visits ih =>
      change (gateway.countAll (gateway.count ledger visit) visits).failures.get kind = _
      rw [ih, get_failures_count, List.countP_cons]
      simp only [decide_eq_true_eq]
      omega

end

/-! ## What is counted, and as what -/

/-- With the services of the settings, none is the service of refused methods only. -/
theorem service_cell_eq_noService_iff {gateway : Gateway} {settings : Config.Settings}
    (hmade : Gateway.ofSettings settings = .ok gateway) (visit : Visit) :
    (gateway.cell visit).service = noService ↔ visit.request.method ∉ forwardedMethods := by
  obtain ⟨table, htable, rfl⟩ := map_eq_ok_iff.1 hmade
  by_cases hmethod : visit.request.method ∈ forwardedMethods
  · obtain ⟨target, remainder, hlongest, -, hresolve⟩ :=
      table.resolve_spec visit.request.target.path
    have hname : target.name ∈ ["tasks", "auth", "frontend"] := by
      rw [← Table.names_of_ofServices htable]
      exact List.mem_map_of_mem hlongest.1
    have hothers : noService ∉ ["tasks", "auth", "frontend"] := by decide
    rw [cell, if_pos hmethod]
    dsimp only
    rw [hresolve]
    refine iff_of_false ?_ (not_not_intro hmethod)
    rintro hnone
    exact hothers (hnone ▸ hname)
  · rw [cell, if_neg hmethod]
    exact iff_of_true rfl hmethod

/-- A failure is a 502 that no service sent. -/
theorem Fails.status_eq {gateway : Gateway} {visit : Visit} {kind : String}
    (hfails : gateway.Fails visit kind) :
    (kind = "timeout" ∨ kind = "unavailable") ∧ (gateway.cell visit).status = 502 ∧
      ∀ reply, ¬gateway.Receives visit.network
        (gateway.forward visit.network visit.request).calls reply := by
  obtain ⟨rejection, hrejected, hstatus, rfl⟩ := fails_iff.1 hfails
  refine ⟨Rejection.kind_of_status hstatus, ?_, fun reply hreply => ?_⟩
  · rw [status_cell, Forwarded.response, hrejected]
    exact hstatus
  · cases hrejected.symm.trans (outcome_of_receives hreply)

/-- What the router relays is counted as a visit, with the status that the client gets. -/
theorem answer_counts (gateway : Gateway) (network : Network) (newId : FieldValue) (ledger : Ledger)
    {request : Request} (hpath : request.target.path.toList.head? = some '/')
    (hother : ¬request.IsHealthCheck) :
    let answer := gateway.answer network newId ledger request
    let visit : Visit := ⟨network, identified newId request⟩
    answer.ledger = gateway.count ledger visit ∧
      answer.response.status = (gateway.cell visit).status := by
  intro answer visit
  have hledger : (gateway.dispatch network ledger visit.request).ledger = gateway.count ledger visit := by
    rw [dispatch]
    by_cases hhealth : visit.request.target.path = healthPath
    · have hmethod : ¬(visit.request.method = .get ∨ visit.request.method = .head) :=
        fun hmethod => hother ⟨hhealth, hmethod⟩
      rw [if_pos hhealth, handleHealth, if_neg hmethod]
      rfl
    · rw [if_neg hhealth]
      exact congrArg Answer.ledger (if_pos hpath)
  obtain ⟨-, hstatus, -⟩ :=
    gateway.dispatch_of_not_isHealthCheck network ledger visit.request hpath hother
  exact ⟨hledger, hstatus⟩

/-- Over any run of requests, however the services behave: the counters of requests add up to one for each,
and each request is in the cell of its method, the status that the client gets and the service that it was
routed to, where none is for the methods that are refused; the failures of a kind are the requests that
the gateway answered with a 502 of its own for a reason of this kind. No other answer is a failure, in
particular none that a service sent, whatever its status. -/
theorem countAll_exact (gateway : Gateway) (ledger : Ledger) (visits : List Visit) :
    let counted := gateway.countAll ledger visits
    counted.requests.total = ledger.requests.total + visits.length ∧
      (∀ labels, counted.requests.get labels =
        ledger.requests.get labels + visits.countP fun visit => gateway.cell visit = labels) ∧
      (∀ kind, counted.failures.get kind =
        ledger.failures.get kind + visits.countP fun visit => gateway.Fails visit kind) ∧
      (∀ visit kind, gateway.Fails visit kind →
        (kind = "timeout" ∨ kind = "unavailable") ∧ (gateway.cell visit).status = 502 ∧
          ∀ reply, ¬gateway.Receives visit.network
            (gateway.forward visit.network visit.request).calls reply) ∧
      (∀ settings, Gateway.ofSettings settings = .ok gateway → ∀ visit,
        ((gateway.cell visit).service = noService ↔ visit.request.method ∉ forwardedMethods)) ∧
      ∀ network newId before request, request.target.path.toList.head? = some '/' →
        ¬request.IsHealthCheck →
          (gateway.answer network newId before request).ledger =
              gateway.count before ⟨network, identified newId request⟩ ∧
            (gateway.answer network newId before request).response.status =
              (gateway.cell ⟨network, identified newId request⟩).status :=
  ⟨gateway.total_requests_countAll ledger visits, gateway.get_requests_countAll ledger visits,
    gateway.get_failures_countAll ledger visits, fun _ _ hfails => hfails.status_eq,
    fun _ hmade => service_cell_eq_noService_iff hmade,
    fun network newId before _ hpath hother =>
      gateway.answer_counts network newId before hpath hother⟩

/-- A visit with a method, at a service that never answers. -/
def idleVisit (method : Http.Method) : Visit := ⟨fun _ => .stalls, healthRequest method⟩

/-- A method that is refused, a service that never answers, one that cannot be reached, and one that
answers with a 502. -/
def sampleVisits : List Visit := [
  idleVisit ⟨"OPTIONS", by decide⟩,
  idleVisit .post,
  ⟨fun _ => .ends [5] (.error .plain), healthRequest .post⟩,
  ⟨fun _ => .ends [5] (.ok (⟨502, .empty⟩, .ends [] (.ok []))), healthRequest .post⟩]

theorem exists_counts_sample : ∃ gateway : Gateway,
    (sampleVisits.countP fun visit => gateway.cell visit = ⟨"OPTIONS", 405, "none"⟩) = 1 ∧
      (sampleVisits.countP fun visit => gateway.cell visit = ⟨"POST", 502, "frontend"⟩) = 3 ∧
      (sampleVisits.countP fun visit => gateway.Fails visit "timeout") = 1 ∧
      (sampleVisits.countP fun visit => gateway.Fails visit "unavailable") = 1 ∧
      gateway.Fails (idleVisit .post) "timeout" := by
  have hcounts : ((Target.create "frontend" "/" "http://tasks.test").toOption.bind fun service =>
      if hall : service.pathPrefix.isCatchAll = true then
        let gateway := toOne service hall
        some (sampleVisits.countP fun visit => gateway.cell visit = ⟨"OPTIONS", 405, "none"⟩,
          sampleVisits.countP fun visit => gateway.cell visit = ⟨"POST", 502, "frontend"⟩,
          sampleVisits.countP fun visit => gateway.Fails visit "timeout",
          sampleVisits.countP fun visit => gateway.Fails visit "unavailable",
          decide (gateway.Fails (idleVisit .post) "timeout"))
      else none) = some (1, 3, 1, 1, true) := by
    decide +kernel
  obtain ⟨service, -, hcounts⟩ := Option.bind_eq_some_iff.1 hcounts
  split at hcounts
  · simp only [Option.some.injEq, Prod.mk.injEq, decide_eq_true_eq] at hcounts
    exact ⟨_, hcounts⟩
  · cases hcounts

/-- Three requests are answered with one status, and two of them are failures, one of each kind. With the
default services a POST is counted under its service, and so it is when it comes through the router. -/
theorem countAll_exact_sample :
    (∃ gateway : Gateway,
      (gateway.countAll {} sampleVisits).requests.total = 4 ∧
        (gateway.countAll {} sampleVisits).requests.get ⟨"OPTIONS", 405, "none"⟩ = 1 ∧
        (gateway.countAll {} sampleVisits).requests.get ⟨"POST", 502, "frontend"⟩ = 3 ∧
        (gateway.countAll {} sampleVisits).failures.get "timeout" = 1 ∧
        (gateway.countAll {} sampleVisits).failures.get "unavailable" = 1 ∧
        gateway.Fails (idleVisit .post) "timeout" ∧ (gateway.cell (idleVisit .post)).status = 502) ∧
      ∃ gateway : Gateway, Gateway.ofSettings {} = .ok gateway ∧
        (gateway.cell (idleVisit .post)).service ≠ noService ∧
        (gateway.answer (fun _ => .stalls) (.ofPlain "1") {} (healthRequest .post)).ledger =
          gateway.count {} ⟨fun _ => .stalls, identified (.ofPlain "1") (healthRequest .post)⟩ := by
  constructor
  · obtain ⟨gateway, hrefused, hfailed, htimeout, hunavailable, hfails⟩ := exists_counts_sample
    obtain ⟨htotal, hcells, hfailures, hstatus, -⟩ := countAll_exact gateway {} sampleVisits
    refine ⟨gateway, htotal, ?_, ?_, ?_, ?_, hfails, (hstatus _ _ hfails).2.1⟩
    · rw [hcells, hrefused]
      rfl
    · rw [hcells, hfailed]
      rfl
    · rw [hfailures, htimeout]
      rfl
    · rw [hfailures, hunavailable]
      rfl
  · obtain ⟨table, htable⟩ := (Table.exists_ofServices_iff {}).2 (by decide +kernel)
    have hmade : Gateway.ofSettings {} = .ok _ := map_eq_ok_iff.2 ⟨table, htable, rfl⟩
    have hother : ¬(healthRequest .post).IsHealthCheck := Request.not_isHealthCheck_of_post rfl
    obtain ⟨-, -, -, -, hservice, hrouted⟩ := countAll_exact _ {} []
    refine ⟨_, hmade, fun hnone => ?_, (hrouted _ _ {} _ rfl hother).1⟩
    exact (hservice {} hmade _).1 hnone (by decide)

end Gateway

end Gatehouse.Proxy
