import Gatehouse.Proofs.Proxy.Reference

/-!
# Whose answer a client gets

Either a service answers the one call for a request in time, and the client gets what becomes of this
answer; or none does, and the gateway answers itself. Its own answers tell their reasons apart, but a
service may answer in the same words: only the calls and their ends show who spoke.
-/

namespace Gatehouse.Proxy

open Http (Response)

/-- The gateway has a different answer for each reason. -/
theorem Rejection.response_injective : Function.Injective Rejection.response := by
  intro a b hsame
  have hstatus : a.status = b.status := congrArg Response.status hsame
  have hbody : a.response.body = b.response.body := congrArg Response.body hsame
  cases a with
  | timeout =>
      cases b with
      | timeout => rfl
      | unavailable => exact absurd hbody (by decide +kernel)
      | _ => cases hstatus
  | unavailable =>
      cases b with
      | timeout => exact absurd hbody (by decide +kernel)
      | unavailable => rfl
      | _ => cases hstatus
  | methodNotAllowed =>
      cases b with
      | methodNotAllowed => rfl
      | _ => cases hstatus
  | payloadTooLarge =>
      cases b with
      | payloadTooLarge => rfl
      | _ => cases hstatus
  | invalidBody =>
      cases b with
      | invalidBody => rfl
      | _ => cases hstatus

/-- An exchange with a result in time was over in time, with this result. -/
theorem Network.exists_concludes_of_within {network : Network} {call : Call} {deadline : Nat}
    {answer : Response} (hresult : (network.exchange call).within deadline = .ok answer) :
    ∃ time, Concludes (network call) time (.ok answer) ∧ time ≤ deadline := by
  by_cases hintime : ∃ time outcome, Concludes (network call) time outcome ∧ time ≤ deadline
  · obtain ⟨time, outcome, hover, hintime⟩ := hintime
    rw [within_of_concludes hover, if_pos hintime, mapError_eq_ok_iff] at hresult
    subst hresult
    exact ⟨time, hover, hintime⟩
  · have hlate : ∀ time outcome, Concludes (network call) time outcome → deadline < time :=
      fun time outcome hover => Nat.lt_of_not_le fun hle => hintime ⟨time, outcome, hover, hle⟩
    rw [within_of_late hlate] at hresult
    cases hresult

namespace Gateway

/-- One of the calls is answered in time. -/
def Receives (gateway : Gateway) (network : Network) (calls : List Call) (answer : Response) : Prop :=
  ∃ call ∈ calls, ∃ time, Concludes (network call) time (.ok answer) ∧ time ≤ gateway.deadline

/-- By its rules the gateway answers a request in its own words, and no service has answered in time. -/
def AnswersItself (gateway : Gateway) (network : Network) (request : Request)
    (rejection : Rejection) : Prop :=
  ∃ calls, gateway.Cycle network request calls rejection.response ∧
    ∀ answer, ¬gateway.Receives network calls answer

section

variable {gateway : Gateway} {network : Network} {request : Request}

theorem response_handle (gateway : Gateway) (network : Network) (ledger : Metrics.Ledger)
    (request : Request) : (gateway.handle network ledger request).response =
      (gateway.forward network request).response := rfl

/-- A request is sent on, or the gateway answers it without a call. -/
theorem exists_sends_or_rejection (gateway : Gateway) (network : Network) (request : Request) :
    (∃ call, gateway.Sends request call) ∨
      ∃ rejection, (gateway.forward network request).calls = [] ∧
        (gateway.forward network request).outcome = .error rejection := by
  obtain ⟨calls, response, hcycle⟩ := gateway.exists_cycle network request
  cases hcycle with
  | methodRefused hmethod =>
      refine .inr ⟨.methodNotAllowed, ?_⟩
      rw [forward, if_pos hmethod]
      exact ⟨rfl, rfl⟩
  | bodyTooLarge hmethod hsize =>
      refine .inr ⟨.payloadTooLarge, ?_⟩
      rw [forward, if_neg (not_not_intro hmethod), Body.read_of_lt hsize]
      exact ⟨rfl, rfl⟩
  | bodyBroken hmethod hsize hbroken =>
      refine .inr ⟨.invalidBody, ?_⟩
      rw [forward, if_neg (not_not_intro hmethod), Body.read_of_le hsize, hbroken]
      exact ⟨rfl, rfl⟩
  | urlUnusable hmethod hsize hunbroken hurl =>
      refine .inr ⟨.unavailable, ?_⟩
      rw [forward, if_neg (not_not_intro hmethod), Body.read_of_le hsize, hunbroken]
      simp only [callOf, hurl]
      exact ⟨rfl, rfl⟩
  | relayed hsends => exact .inl ⟨_, hsends⟩
  | failed hsends => exact .inl ⟨_, hsends⟩
  | timedOut hsends => exact .inl ⟨_, hsends⟩
  | late hsends => exact .inl ⟨_, hsends⟩

/-- A call is made only if its request is sent on by it. -/
theorem sends_of_mem_calls {call : Call} (hcall : call ∈ (gateway.forward network request).calls) :
    gateway.Sends request call := by
  rcases gateway.exists_sends_or_rejection network request with
    ⟨sent, hsends⟩ | ⟨rejection, hcalls, -⟩
  · rw [(forward_of_sends hsends).1, List.mem_singleton] at hcall
    exact hcall ▸ hsends
  · rw [hcalls] at hcall
    cases hcall

/-- An answer that comes in time is relayed. -/
theorem outcome_of_receives {answer : Response}
    (hanswer : gateway.Receives network (gateway.forward network request).calls answer) :
    (gateway.forward network request).outcome = .ok (gateway.relay request answer) := by
  obtain ⟨call, hcall, time, hover, hintime⟩ := hanswer
  rw [(forward_of_sends (sends_of_mem_calls hcall)).2, Network.within_of_concludes hover,
    if_pos hintime]
  rfl

/-- What is relayed came in time. -/
theorem exists_receives_of_outcome {response : Response}
    (houtcome : (gateway.forward network request).outcome = .ok response) :
    ∃ answer, gateway.Receives network (gateway.forward network request).calls answer := by
  rcases gateway.exists_sends_or_rejection network request with
    ⟨call, hsends⟩ | ⟨rejection, -, hrejected⟩
  · obtain ⟨hcalls, hresult⟩ := @forward_of_sends _ network _ _ hsends
    obtain ⟨answer, hanswer, -⟩ := map_eq_ok_iff.1 (hresult.symm.trans houtcome)
    rw [hcalls]
    exact ⟨answer, call, List.mem_singleton_self call, Network.exists_concludes_of_within hanswer⟩
  · cases hrejected.symm.trans houtcome

/-- A request is rejected for a reason when the gateway answers it itself for this reason. -/
theorem outcome_eq_error_iff {rejection : Rejection} :
    (gateway.forward network request).outcome = .error rejection ↔
      gateway.AnswersItself network request rejection := by
  constructor
  · intro houtcome
    obtain ⟨calls, response, hcycle⟩ := gateway.exists_cycle network request
    obtain ⟨rfl, rfl⟩ := hcycle.handle_eq {}
    have hown : (gateway.handle network {} request).response = rejection.response := by
      rw [response_handle, Forwarded.response, houtcome]
    rw [hown] at hcycle
    refine ⟨_, hcycle, fun answer hanswer => ?_⟩
    cases houtcome.symm.trans (outcome_of_receives hanswer)
  · rintro ⟨calls, hcycle, hnone⟩
    obtain ⟨rfl, hresponse⟩ := hcycle.handle_eq {}
    cases houtcome : (gateway.forward network request).outcome with
    | ok response =>
        obtain ⟨answer, hanswer⟩ := exists_receives_of_outcome houtcome
        exact absurd hanswer (hnone answer)
    | error other =>
        have hother : rejection.response = other.response := by
          rw [hresponse, response_handle, Forwarded.response, houtcome]
        rw [Rejection.response_injective hother]

end

end Gateway

end Gatehouse.Proxy
