import Gatehouse.Proofs.Proxy.Accounting
import Mathlib.Data.List.Dedup

/-!
# Series of counters

A cell is a series of its own from its first count on. What is routed is counted under labels that are
known beforehand, from the methods that are relayed, the statuses of HTTP and the targets. What is refused
for its method is counted under the method that the client made up, and there is no end of those.
-/

namespace Gatehouse.Http

/-- However many names there are, a method has another one. -/
theorem Method.exists_name_not_mem (names : List String) : ∃ method : Method, method.name ∉ names := by
  obtain ⟨n, hlonger⟩ : ∃ n, ∀ name ∈ names, name.length < n := by
    induction names with
    | nil => exact ⟨0, nofun⟩
    | cons first names ih =>
        obtain ⟨n, hlonger⟩ := ih
        refine ⟨max n (first.length + 1), fun name hname => ?_⟩
        rcases List.mem_cons.1 hname with rfl | hname
        · omega
        · have hbefore := hlonger name hname
          omega
  have htoken : isToken (String.ofList (List.replicate (n + 1) 'X')) = true := by
    rw [isToken, Bool.and_eq_true, decide_eq_true_eq, String.toList_ofList, List.all_eq_true]
    refine ⟨fun hempty => ?_, fun c hc => ?_⟩
    · have hnone := congrArg String.toList hempty
      rw [String.toList_ofList, List.replicate_succ] at hnone
      cases hnone
    · rw [List.eq_of_mem_replicate hc]
      decide
  refine ⟨⟨_, htoken⟩, fun hname => ?_⟩
  have hshorter := hlonger _ hname
  rw [String.length_ofList, List.length_replicate] at hshorter
  omega

end Gatehouse.Http

namespace Gatehouse.Proxy

open Http (Method Response)
open Metrics (Counter Ledger RequestLabels)
open Route (Table)

/-! ## Statuses -/

/-- The statuses that an answer over HTTP can have. -/
def httpStatuses : List Nat := List.range' 100 900

/-- Services answer with statuses of HTTP. -/
def Network.HasHttpStatuses (network : Network) : Prop :=
  ∀ call pauses head body, network call = .ends pauses (.ok (head, body)) → head.status ∈ httpStatuses

theorem Network.HasHttpStatuses.status_mem {network : Network} (hhttp : network.HasHttpStatuses)
    {call : Call} {time : Nat} {answer : Response}
    (hover : Concludes (network call) time (.ok answer)) : answer.status ∈ httpStatuses := by
  have hcall := hhttp call
  generalize network call = exchange at hover hcall
  cases hover with
  | whole pauses more head frames => exact hcall pauses head _ rfl

theorem Rejection.status_mem (rejection : Rejection) : rejection.status ∈ httpStatuses := by
  rw [httpStatuses, List.mem_range'_1]
  cases rejection <;> decide

namespace Gateway

/-! ## Labels -/

/-- The labels that can be told from the methods that are relayed, the statuses of HTTP and the targets. -/
def routedLabels (gateway : Gateway) : List RequestLabels :=
  forwardedMethods.flatMap fun method => httpStatuses.flatMap fun status =>
    gateway.table.targets.map fun target => ⟨method.name, status, target.name⟩

/-- The labels of requests whose method is refused. -/
def refusedLabels (method : Method) : RequestLabels := ⟨method.name, 405, noService⟩

theorem refusedLabels_injective : Function.Injective refusedLabels := fun _ _ hsame =>
  Method.name_injective (congrArg RequestLabels.method hsame)

theorem mem_routedLabels_iff {gateway : Gateway} {labels : RequestLabels} :
    labels ∈ gateway.routedLabels ↔
      ∃ method ∈ forwardedMethods, ∃ status ∈ httpStatuses, ∃ target ∈ gateway.table.targets,
        ⟨method.name, status, target.name⟩ = labels := by
  simp only [routedLabels, List.mem_flatMap, List.mem_map]

/-- The labels of a method that is refused are not among those that are known beforehand. -/
theorem refusedLabels_not_mem {gateway : Gateway} {method : Method}
    (hrefused : method ∉ forwardedMethods) : refusedLabels method ∉ gateway.routedLabels := by
  rw [mem_routedLabels_iff]
  rintro ⟨forwarded, hforwarded, status, -, target, -, hsame⟩
  cases Method.name_injective (congrArg RequestLabels.method hsame)
  exact hrefused hforwarded

theorem cell_of_refused {gateway : Gateway} {visit : Visit}
    (hrefused : visit.request.method ∉ forwardedMethods) :
    gateway.cell visit = refusedLabels visit.request.method := by
  have hstatus : (gateway.handle visit.network {} visit.request).response.status = 405 := by
    rw [response_handle, forward, if_pos hrefused]
    rfl
  rw [cell, hstatus, if_neg hrefused]
  rfl

theorem status_cell_mem {gateway : Gateway} {visit : Visit} (hhttp : visit.network.HasHttpStatuses) :
    (gateway.cell visit).status ∈ httpStatuses := by
  rw [status_cell, Forwarded.response]
  cases houtcome : (gateway.forward visit.network visit.request).outcome with
  | ok response =>
      obtain ⟨answer, hanswer⟩ := exists_receives_of_outcome houtcome
      have hrelayed := outcome_of_receives hanswer
      rw [houtcome, Except.ok.injEq] at hrelayed
      obtain ⟨call, -, time, hover, -⟩ := hanswer
      have hstatus : answer.status ∈ httpStatuses := hhttp.status_mem hover
      rw [hrelayed]
      exact hstatus
  | error rejection => exact rejection.status_mem

theorem cell_mem_routedLabels {gateway : Gateway} {visit : Visit}
    (hhttp : visit.network.HasHttpStatuses) (hmethod : visit.request.method ∈ forwardedMethods) :
    gateway.cell visit ∈ gateway.routedLabels := by
  obtain ⟨target, remainder, hlongest, -, hresolve⟩ :=
    gateway.table.resolve_spec visit.request.target.path
  refine mem_routedLabels_iff.2
    ⟨_, hmethod, (gateway.cell visit).status, status_cell_mem hhttp, target, hlongest.1, ?_⟩
  rw [cell, if_pos hmethod, hresolve]

/-- A visit is counted under labels that are known beforehand exactly if its method is relayed. -/
theorem cell_mem_routedLabels_iff {gateway : Gateway} {visit : Visit}
    (hhttp : visit.network.HasHttpStatuses) :
    gateway.cell visit ∈ gateway.routedLabels ↔ visit.request.method ∈ forwardedMethods := by
  refine ⟨fun hrouted => ?_, cell_mem_routedLabels hhttp⟩
  by_cases hmethod : visit.request.method ∈ forwardedMethods
  · exact hmethod
  · rw [cell_of_refused hmethod] at hrouted
    exact absurd hrouted (refusedLabels_not_mem hmethod)

/-! ## Runs -/

section

variable (gateway : Gateway) (ledger : Ledger) (visits : List Visit)

/-- The series after a run are the ones before it and the cells of the visits. -/
theorem mem_labels_countAll {labels : RequestLabels} :
    labels ∈ (gateway.countAll ledger visits).requests.labels ↔
      labels ∈ ledger.requests.labels ∨ ∃ visit ∈ visits, gateway.cell visit = labels := by
  induction visits generalizing ledger with
  | nil => simp only [countAll, List.foldl_nil, List.not_mem_nil, false_and, exists_false, or_false]
  | cons visit visits ih =>
      change labels ∈ (gateway.countAll (gateway.count ledger visit) visits).requests.labels ↔ _
      rw [ih, requests_count, Counter.mem_labels_increment, List.exists_mem_cons_iff, or_assoc,
        eq_comm]

theorem nodup_labels_countAll (hnodup : ledger.requests.labels.Nodup) :
    (gateway.countAll ledger visits).requests.labels.Nodup := by
  induction visits generalizing ledger with
  | nil => exact hnodup
  | cons visit visits ih =>
      refine ih (gateway.count ledger visit) ?_
      rw [requests_count]
      exact Counter.nodup_labels_increment _ hnodup

end

/-- Over any run, as long as the services speak HTTP: besides the labels that are known beforehand there is
one series for each method that was refused, and no other. So the series stay among those labels exactly as
long as no method is refused. -/
theorem labels_countAll_perm (gateway : Gateway) (visits : List Visit)
    (hhttp : ∀ visit ∈ visits, visit.network.HasHttpStatuses) :
    let series := (gateway.countAll {} visits).requests.labels
    let refused := (visits.map (·.request.method)).filter (· ∉ forwardedMethods)
    series.Nodup ∧
      (series.filter (· ∉ gateway.routedLabels)).Perm (refused.dedup.map refusedLabels) ∧
      (series ⊆ gateway.routedLabels ↔
        ∀ visit ∈ visits, visit.request.method ∈ forwardedMethods) := by
  intro series refused
  have hseries : ∀ labels, labels ∈ series ↔ ∃ visit ∈ visits, gateway.cell visit = labels := by
    intro labels
    rw [mem_labels_countAll]
    exact or_iff_right List.not_mem_nil
  have hnodup : series.Nodup := gateway.nodup_labels_countAll {} visits List.nodup_nil
  refine ⟨hnodup, ?_, ?_⟩
  · refine (List.perm_ext_iff_of_nodup (hnodup.filter _)
      ((List.nodup_dedup refused).map refusedLabels_injective)).2 fun labels => ?_
    simp only [List.mem_filter, hseries, decide_eq_true_eq, List.mem_map, List.mem_dedup, refused]
    constructor
    · rintro ⟨⟨visit, hvisit, rfl⟩, hunknown⟩
      have hrefused := mt (cell_mem_routedLabels_iff (hhttp visit hvisit)).2 hunknown
      exact ⟨_, ⟨⟨visit, hvisit, rfl⟩, hrefused⟩, (cell_of_refused hrefused).symm⟩
    · rintro ⟨method, ⟨⟨visit, hvisit, rfl⟩, hrefused⟩, rfl⟩
      exact ⟨⟨visit, hvisit, cell_of_refused hrefused⟩, refusedLabels_not_mem hrefused⟩
  · constructor
    · intro hknown visit hvisit
      exact (cell_mem_routedLabels_iff (hhttp visit hvisit)).1
        (hknown ((hseries _).2 ⟨visit, hvisit, rfl⟩))
    · intro hforwarded labels hlabels
      obtain ⟨visit, hvisit, rfl⟩ := (hseries labels).1 hlabels
      exact cell_mem_routedLabels (hhttp visit hvisit) (hforwarded visit hvisit)

theorem hasHttpStatuses_idleVisit (method : Method) :
    (idleVisit method).network.HasHttpStatuses := by
  intro call pauses head body hends
  cases hends

/-- Two made-up methods, one of them used twice, are two series. -/
theorem labels_countAll_perm_idle : ∃ gateway : Gateway,
    let visits := [idleVisit ⟨"BREW", by decide⟩, idleVisit .post, idleVisit ⟨"WHEN", by decide⟩,
      idleVisit ⟨"BREW", by decide⟩]
    (∀ visit ∈ visits, visit.network.HasHttpStatuses) ∧
      ((gateway.countAll {} visits).requests.labels.filter (· ∉ gateway.routedLabels)).length = 2 := by
  obtain ⟨gateway, -⟩ := exists_toOne
  have hhttp : ∀ visit ∈ [idleVisit ⟨"BREW", by decide⟩, idleVisit .post,
      idleVisit ⟨"WHEN", by decide⟩, idleVisit ⟨"BREW", by decide⟩],
      visit.network.HasHttpStatuses := by
    simp only [List.forall_mem_cons, hasHttpStatuses_idleVisit, true_and]
    nofun
  obtain ⟨-, hperm, -⟩ := labels_countAll_perm gateway _ hhttp
  exact ⟨gateway, hhttp, hperm.length_eq.trans (by decide)⟩

/-- No finite set of labels, however it is chosen, holds the series of every run. -/
theorem not_exists_bounded_labels :
    ¬∀ gateway : Gateway, ∃ bound : List RequestLabels, ∀ visits : List Visit,
      (∀ visit ∈ visits, visit.network.HasHttpStatuses) →
        (gateway.countAll {} visits).requests.labels ⊆ bound := by
  intro halways
  obtain ⟨gateway, -⟩ := exists_toOne
  obtain ⟨bound, hbound⟩ := halways gateway
  obtain ⟨method, hnew⟩ :=
    Method.exists_name_not_mem (bound.map (·.method) ++ forwardedMethods.map (·.name))
  rw [List.mem_append, not_or] at hnew
  have hrefused : method ∉ forwardedMethods := fun hmethod => hnew.2 (List.mem_map_of_mem hmethod)
  have hseries : refusedLabels method ∈
      (gateway.countAll {} [idleVisit method]).requests.labels :=
    (mem_labels_countAll ..).2
      (.inr ⟨idleVisit method, List.mem_singleton_self _, cell_of_refused hrefused⟩)
  have hhttp : ∀ visit ∈ [idleVisit method], visit.network.HasHttpStatuses :=
    List.forall_mem_singleton.2 (hasHttpStatuses_idleVisit method)
  exact hnew.1 (List.mem_map_of_mem (hbound [idleVisit method] hhttp hseries))

end Gateway

end Gatehouse.Proxy
