import Gatehouse.Route.Target

/-!
# Route tables

A table holds targets with distinct prefixes, longer prefixes first, one of them the catch-all. Every
path has a route: the target with the longest prefix that matches it, and the URL to call there.
-/

namespace Gatehouse.Route

def Target.prefixSize (target : Target) : Nat := target.pathPrefix.size

/-- The targets with longer prefixes first, equally long ones in their order. -/
def longestFirst (targets : List Target) : List Target :=
  targets.mergeSort fun a b => b.prefixSize ≤ a.prefixSize

/-- The first prefix that an earlier target has too; `seen` are the prefixes before the list. -/
def repeatedPrefix? (seen : List PathPrefix) : List Target → Option PathPrefix
  | [] => none
  | target :: targets =>
    if target.pathPrefix ∈ seen then some target.pathPrefix
    else repeatedPrefix? (seen ++ [target.pathPrefix]) targets

theorem longestFirst_perm (targets : List Target) : (longestFirst targets).Perm targets :=
  List.mergeSort_perm _ _

theorem Target.not_shorter_trans (a b c : Target) (hab : decide (b.prefixSize ≤ a.prefixSize) = true)
    (hbc : decide (c.prefixSize ≤ b.prefixSize) = true) :
    decide (c.prefixSize ≤ a.prefixSize) = true :=
  decide_eq_true (Nat.le_trans (of_decide_eq_true hbc) (of_decide_eq_true hab))

theorem Target.not_shorter_total (a b : Target) :
    (decide (b.prefixSize ≤ a.prefixSize) || decide (a.prefixSize ≤ b.prefixSize)) = true := by
  simp only [Bool.or_eq_true, decide_eq_true_eq]
  exact Nat.le_total b.prefixSize a.prefixSize

/-- No target stands behind one with a shorter prefix. -/
theorem pairwise_longestFirst (targets : List Target) :
    (longestFirst targets).Pairwise fun a b => b.prefixSize ≤ a.prefixSize := by
  have hsorted : (longestFirst targets).Pairwise fun a b =>
      decide (b.prefixSize ≤ a.prefixSize) = true :=
    List.pairwise_mergeSort Target.not_shorter_trans Target.not_shorter_total targets
  exact hsorted.imp of_decide_eq_true

/-- Targets whose prefixes have one size stay in their order. -/
theorem filter_prefixSize_longestFirst (targets : List Target) (size : Nat) :
    ((longestFirst targets).filter fun target => target.prefixSize = size) =
      targets.filter fun target => target.prefixSize = size := by
  have hsize {target : Target}
      (hmem : target ∈ targets.filter fun target => target.prefixSize = size) :
      target.prefixSize = size := of_decide_eq_true (List.mem_filter.1 hmem).2
  have hordered : (targets.filter fun target => target.prefixSize = size).Pairwise
      fun a b => decide (b.prefixSize ≤ a.prefixSize) = true :=
    List.pairwise_of_forall_mem_list fun a ha b hb =>
      decide_eq_true (Nat.le_of_eq ((hsize hb).trans (hsize ha).symm))
  have hkept : (targets.filter fun target => target.prefixSize = size).Sublist
      (longestFirst targets) :=
    List.sublist_mergeSort Target.not_shorter_trans Target.not_shorter_total hordered
      List.filter_sublist
  have hfiltered := hkept.filter fun target => decide (target.prefixSize = size)
  simp only [List.filter_filter, Bool.and_self] at hfiltered
  -- There are as many targets of one size before and after sorting, so none is added in between.
  have hlength := ((longestFirst_perm targets).filter fun target => target.prefixSize = size).length_eq
  exact (hfiltered.eq_of_length hlength.symm).symm

theorem repeatedPrefix?_eq_none_iff {seen : List PathPrefix} {targets : List Target} :
    repeatedPrefix? seen targets = none ↔
      (∀ target ∈ targets, target.pathPrefix ∉ seen) ∧ (targets.map (·.pathPrefix)).Nodup := by
  induction targets generalizing seen with
  | nil => simp [repeatedPrefix?]
  | cons target targets ih =>
      unfold repeatedPrefix?
      split
      · next hseen => simp [hseen]
      · next hnew =>
          rw [ih, List.map_cons, List.nodup_cons, List.forall_mem_cons]
          simp only [List.mem_append, List.mem_singleton, not_or, List.mem_map, not_exists, not_and]
          constructor
          · rintro ⟨hfresh, hdistinct⟩
            exact ⟨⟨hnew, fun other hother => (hfresh other hother).1⟩,
              fun other hother => (hfresh other hother).2, hdistinct⟩
          · rintro ⟨⟨-, hfresh⟩, hother, hdistinct⟩
            exact ⟨fun other hmem => ⟨hfresh other hmem, hother other hmem⟩, hdistinct⟩

/-- Targets in order of precedence, and the place of the one that takes every path. -/
structure Table where
  targets : List Target
  ordered : targets.Pairwise fun a b => b.prefixSize ≤ a.prefixSize
  distinct : (targets.map (·.pathPrefix)).Nodup
  catchAll : Fin targets.length
  catchAll_isCatchAll : targets[catchAll].pathPrefix.isCatchAll = true
deriving Repr

/-- The target and the URL for one request. -/
structure Destination where
  target : Target
  url : String
deriving DecidableEq, Repr

namespace Table

def ofTargets (targets : List Target) : Except RouteError Table :=
  match hrepeated : repeatedPrefix? [] (longestFirst targets) with
  | some repeated => .error (.duplicatePrefix repeated.text)
  | none =>
    match hfound : (longestFirst targets).findFinIdx? fun target => target.pathPrefix.isCatchAll with
    | none => .error .missingCatchAll
    | some catchAll =>
      .ok
        { targets := longestFirst targets
          ordered := pairwise_longestFirst targets
          distinct := (repeatedPrefix?_eq_none_iff.1 hrepeated).2
          catchAll
          catchAll_isCatchAll := (List.findFinIdx?_eq_some_iff.1 hfound).1 }

/-- The first target whose prefix matches a path, with the remainder of the path. -/
def find? (targets : List Target) (path : String) : Option (Target × String) :=
  targets.findSome? fun target =>
    (target.pathPrefix.strip? path).map fun remainder => (target, remainder)

def resolve (table : Table) (path : String) (query : Option String) : Destination :=
  let (target, remainder) := (find? table.targets path).getD
    (table.targets[table.catchAll], String.ofList (path.toList.dropWhile isSlash))
  ⟨target, target.callUrl remainder query⟩

end Table

end Gatehouse.Route
