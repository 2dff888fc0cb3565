import Gatehouse.Proofs.Proxy.Waiting
import Gatehouse.Proofs.Sequencing
import Gatehouse.Proxy.Router

/-!
# The proxy cycle against its rules

`Cycle` states rule by rule which calls are made for a request and what the client is answered. The rules
speak of the whole body, of the time that an exchange took and of the causes behind an error; they say
nothing about how a body is read, a deadline is kept or a chain of causes is walked. Exactly one rule
applies to every request, and the gateway follows it.
-/

namespace Gatehouse.Proxy

open Http (RequestTarget Response)
open Relay (requestFields responseFields)

/-! ## Causes of a failure -/

/-- An error and everything that is found behind it, from cause to cause. -/
inductive TransportError.Behind : TransportError → TransportError → Prop where
  | self (e : TransportError) : Behind e e
  | cause {e cause d : TransportError} (hcause : e.cause? = some cause) (hbehind : Behind cause d) :
      Behind e d

/-- Time ran out, as an input or output error somewhere behind the error says. -/
def TransportError.TimesOut (e : TransportError) : Prop :=
  e.Behind (.io .timedOut) ∨ ∃ carried, e.Behind (.ioCarrying .timedOut carried)

theorem TransportError.mem_chain_iff {e d : TransportError} : d ∈ e.chain ↔ e.Behind d := by
  constructor
  · -- The induction is on the chain: the cause of an error need not be one of its parts.
    intro hmem
    generalize hchain : e.chain = errors at hmem
    induction errors generalizing e with
    | nil => cases hmem
    | cons first rest ih =>
        rw [chain_eq] at hchain
        obtain ⟨rfl, hrest⟩ := List.cons.inj hchain
        rcases List.mem_cons.1 hmem with rfl | hmem
        · exact .self d
        · cases hcause : e.cause? with
          | none =>
              rw [hcause] at hrest
              subst hrest
              cases hmem
          | some cause =>
              rw [hcause] at hrest
              exact .cause hcause (ih hrest hmem)
  · intro hbehind
    induction hbehind with
    | self e =>
        rw [chain_eq]
        exact List.mem_cons_self
    | cause hcause _ ih =>
        rw [chain_eq, hcause]
        exact List.mem_cons_of_mem _ ih

/-- An error of an exchange counts as running out of time or as anything else. -/
theorem TransportError.rejection_eq_timeout_iff {e : TransportError} :
    e.rejection = .timeout ↔ e.TimesOut := by
  simp only [rejection_eq_timeout_iff_any, List.any_eq_true, mem_chain_iff]
  constructor
  · rintro ⟨d, hbehind, htimeout⟩
    cases d with
    | plain => cases htimeout
    | causedBy cause => cases htimeout
    | io kind =>
        cases of_decide_eq_true htimeout
        exact .inl hbehind
    | ioCarrying kind carried =>
        cases of_decide_eq_true htimeout
        exact .inr ⟨carried, hbehind⟩
  · rintro (hbehind | ⟨carried, hbehind⟩)
    · exact ⟨_, hbehind, rfl⟩
    · exact ⟨_, hbehind, rfl⟩

theorem TransportError.rejection_of_timesOut {e : TransportError} (htimeout : e.TimesOut) :
    e.rejection = .timeout := rejection_eq_timeout_iff.2 htimeout

theorem TransportError.rejection_of_not_timesOut {e : TransportError} (hother : ¬e.TimesOut) :
    e.rejection = .unavailable :=
  e.rejection_eq_timeout_or_unavailable.resolve_left (mt rejection_eq_timeout_iff.1 hother)

/-- An error around another one is judged like that one. -/
theorem TransportError.rejection_causedBy (e : TransportError) :
    (causedBy e).rejection = e.rejection := rfl

/-! ## Bodies -/

/-- The limit is on the whole body, and a body beyond it is not noticed to break off. -/
theorem Body.readFrames_eq (broken : Bool) (budget : Nat) (frames : List Bytes) :
    readFrames broken budget frames =
      if budget < frames.flatten.length then .error .payloadTooLarge
      else if broken then .error .invalidBody
      else .ok frames.flatten := by
  induction frames generalizing budget with
  | nil => rfl
  | cons frame frames ih =>
      rw [readFrames, ih, List.flatten_cons, List.length_append]
      by_cases hfits : frame.length ≤ budget
      · have hrest : budget - frame.length < frames.flatten.length ↔
            budget < frame.length + frames.flatten.length := by omega
        rw [if_pos hfits]
        simp only [hrest]
        split
        · rfl
        · split
          · rfl
          · rfl
      · have hmore : budget < frame.length + frames.flatten.length := by omega
        rw [if_neg hfits, if_pos hmore]

/-! ## Exchanges -/

/-- After how much time an exchange is over, and with what: without the head of an answer, without its
body, or with the whole answer. -/
inductive Concludes :
    Exchange (Head × Exchange (List Bytes)) → Nat → Except TransportError Response → Prop where
  | withoutHead (pauses : List Nat) (e : TransportError) :
      Concludes (.ends pauses (.error e)) (Exchange.duration pauses) (.error e)
  | withoutBody (pauses more : List Nat) (head : Head) (e : TransportError) :
      Concludes (.ends pauses (.ok (head, .ends more (.error e))))
        (Exchange.duration pauses + Exchange.duration more) (.error e)
  | whole (pauses more : List Nat) (head : Head) (frames : List Bytes) :
      Concludes (.ends pauses (.ok (head, .ends more (.ok frames))))
        (Exchange.duration pauses + Exchange.duration more)
        (.ok ⟨head.status, head.headers, frames.flatten⟩)

/-- An exchange that is over has its outcome if it was in time. -/
theorem Network.within_of_concludes {network : Network} {call : Call} {time deadline : Nat}
    {outcome : Except TransportError Response} (hover : Concludes (network call) time outcome) :
    (network.exchange call).within deadline =
      if time ≤ deadline then outcome.mapError TransportError.rejection else .error .timeout := by
  rw [Network.exchange]
  generalize network call = exchange at hover
  cases hover with
  | withoutHead pauses e =>
      change Exchange.within deadline (.ends pauses (.error (.causedBy e))) = _
      rw [Exchange.within_ends, mapError_error, TransportError.rejection_causedBy]
      rfl
  | withoutBody pauses more head e =>
      change Exchange.within deadline (.ends (pauses ++ more) (.error (.causedBy e))) = _
      rw [Exchange.within_ends, Exchange.duration_append, mapError_error,
        TransportError.rejection_causedBy]
      rfl
  | whole pauses more head frames =>
      change Exchange.within deadline (.ends (pauses ++ more) (.ok _)) = _
      rw [Exchange.within_ends, Exchange.duration_append]

/-- An exchange without a conclusion stalls, before the head of the answer or behind it. -/
theorem exists_concludes_or_stalls (exchange : Exchange (Head × Exchange (List Bytes))) :
    (∃ time outcome, Concludes exchange time outcome) ∨ exchange = .stalls ∨
      ∃ pauses head, exchange = .ends pauses (.ok (head, .stalls)) := by
  cases exchange with
  | stalls => exact .inr (.inl rfl)
  | ends pauses outcome =>
      cases outcome with
      | error e => exact .inl ⟨_, _, .withoutHead pauses e⟩
      | ok answer =>
          obtain ⟨head, body⟩ := answer
          cases body with
          | stalls => exact .inr (.inr ⟨pauses, head, rfl⟩)
          | ends more collected =>
              cases collected with
              | error e => exact .inl ⟨_, _, .withoutBody pauses more head e⟩
              | ok frames => exact .inl ⟨_, _, .whole pauses more head frames⟩

/-- An exchange that is over too late, or never, runs out of time. -/
theorem Network.within_of_late {network : Network} {call : Call} {deadline : Nat}
    (hlate : ∀ time outcome, Concludes (network call) time outcome → deadline < time) :
    (network.exchange call).within deadline = .error .timeout := by
  rcases exists_concludes_or_stalls (network call) with
    ⟨time, outcome, hover⟩ | hstalls | ⟨pauses, head, hstalls⟩
  · rw [within_of_concludes hover, if_neg (Nat.not_le.2 (hlate time outcome hover))]
  · rw [exchange, hstalls]
    rfl
  · rw [exchange, hstalls]
    rfl

/-! ## The rules -/

/-- A request is sent on by one call: its method is relayed, its body was read within the limit, and
the URL that it is routed to is a target of a request. -/
structure Gateway.Sends (gateway : Gateway) (request : Request) (call : Call) : Prop where
  method_mem : request.method ∈ forwardedMethods
  size_le : request.body.frames.flatten.length ≤ gateway.maxBodySize
  unbroken : request.body.broken = false
  usable : RequestTarget.parse? call.url ≠ none
  method_eq : call.method = request.method
  url_eq : call.url = (gateway.table.resolve request.target.path request.target.query).url
  headers_eq : call.headers = requestFields request.headers
  body_eq : call.body = request.body.frames.flatten

/-- Which calls are made for a request, and what the client is answered. -/
inductive Gateway.Cycle (gateway : Gateway) (network : Network) (request : Request) :
    List Call → Response → Prop where
  | methodRefused (hmethod : request.method ∉ forwardedMethods) :
      Cycle gateway network request [] (.error 405 "Method not allowed")
  | bodyTooLarge (hmethod : request.method ∈ forwardedMethods)
      (hsize : gateway.maxBodySize < request.body.frames.flatten.length) :
      Cycle gateway network request [] (.error 413 "Request body too large")
  | bodyBroken (hmethod : request.method ∈ forwardedMethods)
      (hsize : request.body.frames.flatten.length ≤ gateway.maxBodySize)
      (hbroken : request.body.broken = true) :
      Cycle gateway network request [] (.error 400 "Could not read request body")
  | urlUnusable (hmethod : request.method ∈ forwardedMethods)
      (hsize : request.body.frames.flatten.length ≤ gateway.maxBodySize)
      (hunbroken : request.body.broken = false)
      (hurl : RequestTarget.parse?
        (gateway.table.resolve request.target.path request.target.query).url = none) :
      Cycle gateway network request [] (.error 502 "Downstream service unavailable")
  | relayed {call : Call} {time : Nat} {answer : Response} (hsends : gateway.Sends request call)
      (hover : Concludes (network call) time (.ok answer)) (hintime : time ≤ gateway.deadline) :
      Cycle gateway network request [call]
        { status := answer.status
          headers :=
            responseFields answer.headers (.ofRequest request.target request.headers gateway.tls)
          body := answer.body }
  | failed {call : Call} {time : Nat} {e : TransportError} (hsends : gateway.Sends request call)
      (hover : Concludes (network call) time (.error e)) (hintime : time ≤ gateway.deadline)
      (hother : ¬e.TimesOut) :
      Cycle gateway network request [call] (.error 502 "Downstream service unavailable")
  | timedOut {call : Call} {time : Nat} {e : TransportError} (hsends : gateway.Sends request call)
      (hover : Concludes (network call) time (.error e)) (hintime : time ≤ gateway.deadline)
      (htimeout : e.TimesOut) :
      Cycle gateway network request [call] (.error 502 "Downstream request timed out")
  | late {call : Call} (hsends : gateway.Sends request call)
      (hlate : ∀ time outcome, Concludes (network call) time outcome → gateway.deadline < time) :
      Cycle gateway network request [call] (.error 502 "Downstream request timed out")

/-! ## The gateway follows the rules -/

section

variable {gateway : Gateway} {network : Network} {request : Request}

/-- There is at most one call that a request is sent on by. -/
theorem Gateway.Sends.eq_callOf {call : Call} (hsends : gateway.Sends request call) :
    call = gateway.callOf request request.body.frames.flatten := by
  obtain ⟨-, -, -, -, hmethod, hurl, hheaders, hbody⟩ := hsends
  cases call
  cases hmethod
  cases hurl
  cases hheaders
  cases hbody
  rfl

theorem Body.read_of_le {body : Body} {limit : Nat} (hsize : body.frames.flatten.length ≤ limit) :
    body.read limit =
      if body.broken then .error .invalidBody else .ok body.frames.flatten := by
  rw [Body.read, Body.readFrames_eq, if_neg (Nat.not_lt.2 hsize)]

theorem Body.read_of_lt {body : Body} {limit : Nat} (hsize : limit < body.frames.flatten.length) :
    body.read limit = .error .payloadTooLarge := by
  rw [Body.read, Body.readFrames_eq, if_pos hsize]

/-- A request that is sent on is answered by what comes of its one call. -/
theorem Gateway.forward_of_sends {call : Call} (hsends : gateway.Sends request call) :
    (gateway.forward network request).calls = [call] ∧
      (gateway.forward network request).outcome =
        ((network.exchange call).within gateway.deadline).map (gateway.relay request) := by
  have hcall := hsends.eq_callOf
  obtain ⟨hmethod, hsize, hunbroken, husable, -⟩ := hsends
  rw [hcall] at husable
  obtain ⟨target, htarget⟩ := Option.ne_none_iff_exists'.1 husable
  have hread : request.body.read gateway.maxBodySize = .ok request.body.frames.flatten := by
    rw [Body.read_of_le hsize, hunbroken]
    rfl
  rw [Gateway.forward, if_neg (not_not_intro hmethod), hread]
  simp only [htarget]
  rw [hcall]
  exact ⟨rfl, rfl⟩

/-- The answer of the gateway is the one that a rule gives, and so are its calls. -/
theorem Gateway.Cycle.handle_eq {calls : List Call} {response : Response}
    (hcycle : gateway.Cycle network request calls response) (ledger : Metrics.Ledger) :
    calls = (gateway.handle network ledger request).calls ∧
      response = (gateway.handle network ledger request).response := by
  simp only [Gateway.handle]
  cases hcycle with
  | methodRefused hmethod =>
      rw [Gateway.forward, if_pos hmethod]
      exact ⟨rfl, rfl⟩
  | bodyTooLarge hmethod hsize =>
      rw [Gateway.forward, if_neg (not_not_intro hmethod), Body.read_of_lt hsize]
      exact ⟨rfl, rfl⟩
  | bodyBroken hmethod hsize hbroken =>
      rw [Gateway.forward, if_neg (not_not_intro hmethod), Body.read_of_le hsize, hbroken]
      exact ⟨rfl, rfl⟩
  | urlUnusable hmethod hsize hunbroken hurl =>
      rw [Gateway.forward, if_neg (not_not_intro hmethod), Body.read_of_le hsize, hunbroken]
      simp only [Gateway.callOf, hurl]
      exact ⟨rfl, rfl⟩
  | relayed hsends hover hintime =>
      obtain ⟨hcalls, houtcome⟩ := Gateway.forward_of_sends hsends
      rw [Network.within_of_concludes hover, if_pos hintime] at houtcome
      rw [hcalls, Forwarded.response, houtcome]
      exact ⟨rfl, rfl⟩
  | failed hsends hover hintime hother =>
      obtain ⟨hcalls, houtcome⟩ := Gateway.forward_of_sends hsends
      rw [Network.within_of_concludes hover, if_pos hintime, mapError_error,
        TransportError.rejection_of_not_timesOut hother] at houtcome
      rw [hcalls, Forwarded.response, houtcome]
      exact ⟨rfl, rfl⟩
  | timedOut hsends hover hintime htimeout =>
      obtain ⟨hcalls, houtcome⟩ := Gateway.forward_of_sends hsends
      rw [Network.within_of_concludes hover, if_pos hintime, mapError_error,
        TransportError.rejection_of_timesOut htimeout] at houtcome
      rw [hcalls, Forwarded.response, houtcome]
      exact ⟨rfl, rfl⟩
  | late hsends hlate =>
      obtain ⟨hcalls, houtcome⟩ := Gateway.forward_of_sends hsends
      rw [Network.within_of_late hlate] at houtcome
      rw [hcalls, Forwarded.response, houtcome]
      exact ⟨rfl, rfl⟩

/-- Some rule applies to every request that is sent on. -/
theorem Gateway.exists_cycle_of_sends (network : Network) {call : Call}
    (hsends : gateway.Sends request call) :
    ∃ calls response, gateway.Cycle network request calls response := by
  by_cases hintime : ∃ time outcome, Concludes (network call) time outcome ∧ time ≤ gateway.deadline
  · obtain ⟨time, outcome, hover, hintime⟩ := hintime
    cases outcome with
    | ok answer => exact ⟨_, _, .relayed hsends hover hintime⟩
    | error e =>
        by_cases htimeout : e.TimesOut
        · exact ⟨_, _, .timedOut hsends hover hintime htimeout⟩
        · exact ⟨_, _, .failed hsends hover hintime htimeout⟩
  · refine ⟨_, _, .late hsends fun time outcome hover => Nat.lt_of_not_le fun hle => ?_⟩
    exact hintime ⟨time, outcome, hover, hle⟩

/-- Some rule applies to every request. -/
theorem Gateway.exists_cycle (gateway : Gateway) (network : Network) (request : Request) :
    ∃ calls response, gateway.Cycle network request calls response := by
  by_cases hmethod : request.method ∈ forwardedMethods
  · by_cases hsize : request.body.frames.flatten.length ≤ gateway.maxBodySize
    · cases hbroken : request.body.broken with
      | true => exact ⟨_, _, .bodyBroken hmethod hsize hbroken⟩
      | false =>
          by_cases hurl : RequestTarget.parse?
              (gateway.table.resolve request.target.path request.target.query).url = none
          · exact ⟨_, _, .urlUnusable hmethod hsize hbroken hurl⟩
          · have hsends : gateway.Sends request
                (gateway.callOf request request.body.frames.flatten) :=
              ⟨hmethod, hsize, hbroken, hurl, rfl, rfl, rfl, rfl⟩
            exact exists_cycle_of_sends network hsends
    · exact ⟨_, _, .bodyTooLarge hmethod (Nat.lt_of_not_le hsize)⟩
  · exact ⟨_, _, .methodRefused hmethod⟩

/-- Whatever the request and however the services behave: the calls that are made and the answer that
the client gets are those of the rules, and no other ones. -/
theorem Gateway.cycle_iff_handle (gateway : Gateway) (network : Network) (ledger : Metrics.Ledger)
    (request : Request) (calls : List Call) (response : Response) :
    gateway.Cycle network request calls response ↔
      calls = (gateway.handle network ledger request).calls ∧
        response = (gateway.handle network ledger request).response := by
  constructor
  · intro hcycle
    exact hcycle.handle_eq ledger
  · rintro ⟨rfl, rfl⟩
    obtain ⟨calls, response, hcycle⟩ := gateway.exists_cycle network request
    obtain ⟨hcalls, hresponse⟩ := hcycle.handle_eq ledger
    rw [← hcalls, ← hresponse]
    exact hcycle

end

end Gatehouse.Proxy
