import Gatehouse.Proofs.Route.Segments
import Gatehouse.Proofs.Sequencing
import Gatehouse.Route.Table

/-!
# Precedence of targets

The first match in a table is the longest one: targets with longer prefixes stand in front, prefixes are
distinct, and no two of one size cover the same path. What a path resolves to is therefore a matter of
which targets there are, and not of the order in which they are given.
-/

namespace Gatehouse.Route

open PathPrefix (isSome_strip?_iff)

/-! ## Accepted tables -/

theorem Target.pathPrefix_of_create {name start base : String} {target : Target}
    (hcreated : Target.create name start base = .ok target) :
    target.pathPrefix = .ofString start := by
  unfold Target.create at hcreated
  split at hcreated
  · cases hcreated
  · split at hcreated
    · cases hcreated
      rfl
    · cases hcreated

theorem Target.name_of_create {name start base : String} {target : Target}
    (hcreated : Target.create name start base = .ok target) : target.name = name := by
  unfold Target.create at hcreated
  split at hcreated
  · cases hcreated
  · split at hcreated
    · cases hcreated
      rfl
    · cases hcreated

/-- A table accepts targets whose prefixes are distinct and one of which takes every path. -/
theorem Table.exists_ofTargets_iff {targets : List Target} :
    (∃ table, Table.ofTargets targets = .ok table) ↔
      (targets.map (·.pathPrefix)).Nodup ∧ ∃ target ∈ targets, target.pathPrefix.isCatchAll = true := by
  have hperm := longestFirst_perm targets
  have hrepeated : repeatedPrefix? [] (longestFirst targets) = none ↔
      (targets.map (·.pathPrefix)).Nodup := by
    rw [repeatedPrefix?_eq_none_iff, (hperm.map _).nodup_iff]
    simp
  have hfound : (∃ target ∈ longestFirst targets, target.pathPrefix.isCatchAll = true) ↔
      ∃ target ∈ targets, target.pathPrefix.isCatchAll = true := by
    simp only [hperm.mem_iff]
  rw [← hrepeated, ← hfound]
  unfold Table.ofTargets
  split
  · next hsome => simp [hsome]
  · next hnone =>
      split
      · next hmissing =>
          have habsent := List.findFinIdx?_eq_none_iff.1 hmissing
          constructor
          · rintro ⟨table, h⟩
            cases h
          · rintro ⟨-, target, hmem, hall⟩
            exact absurd hall (habsent target hmem)
      · next catchAll hplace =>
          refine ⟨fun _ => ⟨hnone, _, List.getElem_mem catchAll.isLt, ?_⟩, fun _ => ⟨_, rfl⟩⟩
          exact (List.findFinIdx?_eq_some_iff.1 hplace).1

/-- A table holds the targets that it was made of, longer prefixes first. -/
theorem Table.targets_of_ofTargets {targets : List Target} {table : Table}
    (haccepted : Table.ofTargets targets = .ok table) : table.targets = longestFirst targets := by
  unfold Table.ofTargets at haccepted
  split at haccepted
  · cases haccepted
  · split at haccepted
    · cases haccepted
    · cases haccepted
      rfl

theorem Table.mem_targets_of_ofTargets {targets : List Target} {table : Table}
    (haccepted : Table.ofTargets targets = .ok table) {target : Target} :
    target ∈ table.targets ↔ target ∈ targets := by
  rw [Table.targets_of_ofTargets haccepted]
  exact (longestFirst_perm targets).mem_iff

/-- Two targets of a table with the same prefix are the same target. -/
theorem Table.eq_of_pathPrefix_eq (table : Table) {a b : Target} (ha : a ∈ table.targets)
    (hb : b ∈ table.targets) (hsame : a.pathPrefix = b.pathPrefix) : a = b := by
  have hdistinct := table.distinct
  rw [List.Nodup, List.pairwise_map] at hdistinct
  have hall := List.Pairwise.forall_of_forall_of_flip
    (R := fun a b : Target => a.pathPrefix = b.pathPrefix → a = b)
    (fun target _ _ => rfl)
    (hdistinct.imp fun hne heq => absurd heq hne)
    (hdistinct.imp fun hne heq => absurd heq.symm hne)
  exact hall ha hb hsame

/-! ## The longest match -/

/-- The target has the longest prefix among the targets that match a path. -/
def Target.IsLongest (targets : List Target) (path : String) (target : Target) : Prop :=
  target ∈ targets ∧ target.pathPrefix.Covers path ∧
    ∀ other ∈ targets, other.pathPrefix.Covers path → other.prefixSize ≤ target.prefixSize

/-- A path has no two longest matches in a table. -/
theorem Target.IsLongest.unique {table : Table} {path : String} {a b : Target}
    (ha : a.IsLongest table.targets path) (hb : b.IsLongest table.targets path) : a = b := by
  obtain ⟨hamem, hacovers, hamost⟩ := ha
  obtain ⟨hbmem, hbcovers, hbmost⟩ := hb
  have hsize : a.prefixSize = b.prefixSize :=
    Nat.le_antisymm (hbmost a hamem hacovers) (hamost b hbmem hbcovers)
  exact table.eq_of_pathPrefix_eq hamem hbmem (hacovers.eq_of_size_eq hbcovers hsize)

/-- What is found in a sorted list is a longest match with its remainder. -/
theorem Table.isLongest_of_find?_eq_some {targets : List Target} {path remainder : String}
    {target : Target} (hordered : targets.Pairwise fun a b => b.prefixSize ≤ a.prefixSize)
    (hfound : Table.find? targets path = some (target, remainder)) :
    target.IsLongest targets path ∧ target.pathPrefix.strip? path = some remainder := by
  induction targets with
  | nil => cases hfound
  | cons first targets ih =>
      obtain ⟨hfirst, hrest⟩ := List.pairwise_cons.1 hordered
      rw [Table.find?, List.findSome?_cons] at hfound
      cases hstrip : first.pathPrefix.strip? path with
      | none =>
          -- The first target does not match, so that it cannot be a longer one either.
          rw [hstrip] at hfound
          obtain ⟨⟨hmem, hcovers, hmost⟩, htarget⟩ := ih hrest hfound
          refine ⟨⟨List.mem_cons_of_mem _ hmem, hcovers, ?_⟩, htarget⟩
          intro other hother hcovered
          rcases List.mem_cons.1 hother with rfl | hother
          · have hsome := (isSome_strip?_iff _ _).2 hcovered
            simp [hstrip] at hsome
          · exact hmost other hother hcovered
      | some rest =>
          rw [hstrip] at hfound
          cases hfound
          have hcovers := (isSome_strip?_iff _ _).1 (Option.isSome_of_eq_some hstrip)
          refine ⟨⟨List.mem_cons_self, hcovers, ?_⟩, hstrip⟩
          intro other hother _
          rcases List.mem_cons.1 hother with rfl | hother
          · exact Nat.le_refl _
          · exact hfirst other hother

/-- Every path is matched in a table, at the latest by the target that takes every path. -/
theorem Table.isSome_find? (table : Table) (path : String) :
    (Table.find? table.targets path).isSome = true := by
  rw [Table.find?, List.isSome_findSome?, List.any_eq_true]
  refine ⟨_, List.getElem_mem table.catchAll.isLt, ?_⟩
  rw [Option.isSome_map]
  exact PathPrefix.isSome_strip?_of_isCatchAll table.catchAll_isCatchAll path

/-- A path resolves to its longest match and to what that leaves of the path. -/
theorem Table.resolve_spec (table : Table) (path : String) :
    ∃ target remainder, target.IsLongest table.targets path ∧
      target.pathPrefix.strip? path = some remainder ∧
      ∀ query, table.resolve path query = ⟨target, target.callUrl remainder query⟩ := by
  obtain ⟨⟨target, remainder⟩, hfound⟩ := Option.isSome_iff_exists.1 (table.isSome_find? path)
  obtain ⟨hlongest, hstrip⟩ := Table.isLongest_of_find?_eq_some table.ordered hfound
  refine ⟨target, remainder, hlongest, hstrip, ?_⟩
  intro query
  rw [Table.resolve, hfound]
  rfl

/-- Tables of the same targets resolve a path alike. -/
theorem Table.resolve_congr {table other : Table}
    (hsame : ∀ target, target ∈ table.targets ↔ target ∈ other.targets) (path : String)
    (query : Option String) : table.resolve path query = other.resolve path query := by
  obtain ⟨a, rest, ha, hstrip, hresolve⟩ := table.resolve_spec path
  obtain ⟨b, rest', hb, hstrip', hresolve'⟩ := other.resolve_spec path
  have hlongest : a.IsLongest other.targets path := by
    obtain ⟨hmem, hcovers, hmost⟩ := ha
    exact ⟨(hsame a).1 hmem, hcovers, fun target htarget => hmost target ((hsame target).2 htarget)⟩
  cases hlongest.unique hb
  cases hstrip.symm.trans hstrip'
  rw [hresolve, hresolve']

/-- In a table made of some targets every path resolves to the one target with the longest prefix that
matches it by whole segments, without falling back on the catch-all; and the targets in any other order
make a table as well, which resolves every path and query to the same target and URL. -/
theorem Table.resolve_isLongest {targets : List Target} {table : Table}
    (haccepted : Table.ofTargets targets = .ok table) :
    (∀ path query, Table.find? table.targets path ≠ none ∧
      (table.resolve path query).target.IsLongest targets path ∧
      ∀ target : Target, target.IsLongest targets path →
        target = (table.resolve path query).target) ∧
    ∀ permuted, targets.Perm permuted → ∃ other, Table.ofTargets permuted = .ok other ∧
      ∀ path query, other.resolve path query = table.resolve path query := by
  have hmem {target : Target} : target ∈ table.targets ↔ target ∈ targets :=
    Table.mem_targets_of_ofTargets haccepted
  have hlongest {target : Target} {path : String} :
      target.IsLongest table.targets path ↔ target.IsLongest targets path := by
    simp only [Target.IsLongest, hmem]
  constructor
  · intro path query
    obtain ⟨target, remainder, htarget, -, hresolve⟩ := table.resolve_spec path
    rw [hresolve]
    refine ⟨Option.isSome_iff_ne_none.1 (table.isSome_find? path), hlongest.1 htarget, ?_⟩
    intro another hanother
    exact (hlongest.2 hanother).unique htarget
  · intro permuted hperm
    have hother : ∃ other, Table.ofTargets permuted = .ok other := by
      obtain ⟨hdistinct, hall⟩ := Table.exists_ofTargets_iff.1 ⟨table, haccepted⟩
      refine Table.exists_ofTargets_iff.2 ⟨(hperm.map _).nodup_iff.1 hdistinct, ?_⟩
      simpa only [hperm.mem_iff] using hall
    obtain ⟨other, hother⟩ := hother
    refine ⟨other, hother, fun path query => Table.resolve_congr (fun target => ?_) path query⟩
    rw [Table.mem_targets_of_ofTargets hother, hmem, hperm.mem_iff]

/-- Nested prefixes, the shortest given first: the longest match by whole segments wins. -/
theorem Table.resolve_isLongest_nested :
    ∃ frontend api tasks table,
      Target.create "frontend" "/" "http://f" = .ok frontend ∧
      Target.create "api" "/api/" "http://a" = .ok api ∧
      Target.create "tasks" "api/tasks" "http://t:5000/base" = .ok tasks ∧
      Table.ofTargets [frontend, api, tasks] = .ok table ∧
      (table.resolve "/api/tasks/1" none).target = tasks ∧
      (table.resolve "/api/tasksx" none).target = api := by
  obtain ⟨frontend, hfrontend⟩ := exists_eq_ok_of_isSome
    (x := Target.create "frontend" "/" "http://f") (by decide +kernel)
  obtain ⟨api, hapi⟩ := exists_eq_ok_of_isSome
    (x := Target.create "api" "/api/" "http://a") (by decide +kernel)
  obtain ⟨tasks, htasks⟩ := exists_eq_ok_of_isSome
    (x := Target.create "tasks" "api/tasks" "http://t:5000/base") (by decide +kernel)
  have hf := Target.pathPrefix_of_create hfrontend
  have ha := Target.pathPrefix_of_create hapi
  have ht := Target.pathPrefix_of_create htasks
  have haccepted : ∃ table, Table.ofTargets [frontend, api, tasks] = .ok table := by
    refine Table.exists_ofTargets_iff.2 ⟨?_, frontend, List.mem_cons_self, ?_⟩
    · simp only [List.map, hf, ha, ht]
      decide +kernel
    · rw [hf]
      decide +kernel
  obtain ⟨table, htable⟩ := haccepted
  have htasksLongest : tasks.IsLongest [frontend, api, tasks] "/api/tasks/1" := by
    refine ⟨by simp, ?_⟩
    simp only [List.forall_mem_cons, Target.prefixSize, hf, ha, ht]
    decide +kernel
  have hapiLongest : api.IsLongest [frontend, api, tasks] "/api/tasksx" := by
    refine ⟨by simp, ?_⟩
    simp only [List.forall_mem_cons, Target.prefixSize, hf, ha, ht]
    decide +kernel
  have hpick := (Table.resolve_isLongest htable).1
  refine ⟨frontend, api, tasks, table, hfrontend, hapi, htasks, htable, ?_, ?_⟩
  · exact ((hpick "/api/tasks/1" none).2.2 tasks htasksLongest).symm
  · exact ((hpick "/api/tasksx" none).2.2 api hapiLongest).symm

end Gatehouse.Route
