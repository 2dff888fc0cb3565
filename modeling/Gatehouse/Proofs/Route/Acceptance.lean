import Gatehouse.Proofs.Route.Precedence
import Mathlib.Data.List.Count
import Mathlib.Data.List.Nodup

/-!
# Accepted lists of targets

Whether a list of targets makes a table is a matter of their prefixes in normal form: no two may be
equal, and one must be a single slash. The order of the list decides neither that nor the reason of a
refusal. A table holds the targets that it was made of, sorted by the size of their prefixes, and the
sort is stable.
-/

namespace Gatehouse.Route

theorem PathPrefix.text_injective : Function.Injective PathPrefix.text :=
  fun _ _ => PathPrefix.ext_text

/-- The prefixes of targets, in normal form. -/
def prefixTexts (targets : List Target) : List String :=
  targets.map fun target => target.pathPrefix.text

theorem prefixTexts_eq_map (targets : List Target) :
    prefixTexts targets = (targets.map (·.pathPrefix)).map PathPrefix.text := by
  rw [List.map_map]
  rfl

theorem nodup_prefixTexts_iff {targets : List Target} :
    (prefixTexts targets).Nodup ↔ (targets.map (·.pathPrefix)).Nodup := by
  rw [prefixTexts_eq_map]
  exact List.nodup_map_iff PathPrefix.text_injective

theorem slash_mem_prefixTexts_iff {targets : List Target} :
    "/" ∈ prefixTexts targets ↔ ∃ target ∈ targets, target.pathPrefix.isCatchAll = true := by
  simp only [prefixTexts, List.mem_map, PathPrefix.isCatchAll_iff]

/-! ## Refusals -/

/-- The prefix that is found to be repeated occurs at least twice. -/
theorem two_le_count_of_repeatedPrefix? {seen : List PathPrefix} {targets : List Target}
    {repeated : PathPrefix} (hfound : repeatedPrefix? seen targets = some repeated) :
    2 ≤ (seen ++ targets.map (·.pathPrefix)).count repeated := by
  induction targets generalizing seen with
  | nil => cases hfound
  | cons target targets ih =>
      unfold repeatedPrefix? at hfound
      split at hfound
      · next hseen =>
          cases hfound
          have hbefore := List.count_pos_iff.2 hseen
          rw [List.map_cons, List.count_append, List.count_cons_self]
          omega
      · have hmore := ih hfound
        rwa [List.append_assoc, List.singleton_append] at hmore

/-- Equal prefixes are refused first, and one of those that are repeated is named. -/
theorem Table.exists_repeated_of_not_nodup {targets : List Target}
    (hequal : ¬(prefixTexts targets).Nodup) :
    ∃ text, Table.ofTargets targets = .error (.duplicatePrefix text) ∧
      2 ≤ (prefixTexts targets).count text := by
  have hperm := (longestFirst_perm targets).map (·.pathPrefix)
  rw [nodup_prefixTexts_iff, ← hperm.nodup_iff] at hequal
  cases hrepeated : repeatedPrefix? [] (longestFirst targets) with
  | none => exact absurd (repeatedPrefix?_eq_none_iff.1 hrepeated).2 hequal
  | some repeated =>
      refine ⟨repeated.text, ?_, ?_⟩
      · unfold Table.ofTargets
        split
        · next other hother =>
            cases hrepeated.symm.trans hother
            rfl
        · next hnone => cases hrepeated.symm.trans hnone
      · have htwice := two_le_count_of_repeatedPrefix? hrepeated
        rw [List.nil_append, hperm.count_eq] at htwice
        rwa [prefixTexts_eq_map, List.count_map_of_injective _ _ PathPrefix.text_injective]

/-- Distinct prefixes without a single slash among them leave some paths without a target. -/
theorem Table.ofTargets_of_no_slash {targets : List Target} (hdistinct : (prefixTexts targets).Nodup)
    (hnone : "/" ∉ prefixTexts targets) : Table.ofTargets targets = .error .missingCatchAll := by
  have hperm := longestFirst_perm targets
  rw [nodup_prefixTexts_iff, ← (hperm.map (·.pathPrefix)).nodup_iff] at hdistinct
  rw [slash_mem_prefixTexts_iff] at hnone
  unfold Table.ofTargets
  split
  · next hrepeated =>
      have hfree := repeatedPrefix?_eq_none_iff.2 ⟨fun _ _ => List.not_mem_nil, hdistinct⟩
      cases hfree.symm.trans hrepeated
  · split
    · rfl
    · next catchAll hplace =>
        have hall := (List.findFinIdx?_eq_some_iff.1 hplace).1
        have hmem := hperm.mem_iff.1 (List.getElem_mem catchAll.isLt)
        exact absurd ⟨_, hmem, hall⟩ hnone

theorem Table.exists_ofTargets_iff_prefixTexts {targets : List Target} :
    (∃ table, Table.ofTargets targets = .ok table) ↔
      (prefixTexts targets).Nodup ∧ "/" ∈ prefixTexts targets := by
  rw [Table.exists_ofTargets_iff, nodup_prefixTexts_iff, slash_mem_prefixTexts_iff]

/-- Two lists of targets come to the same: both make a table, or both are refused for one reason,
whichever prefix is named. -/
inductive SameVerdict : Except RouteError Table → Except RouteError Table → Prop
  | accepted (a b : Table) : SameVerdict (.ok a) (.ok b)
  | repeated (s t : String) : SameVerdict (.error (.duplicatePrefix s)) (.error (.duplicatePrefix t))
  | noCatchAll : SameVerdict (.error .missingCatchAll) (.error .missingCatchAll)

theorem Table.sameVerdict_of_perm {targets permuted : List Target} (hperm : targets.Perm permuted) :
    SameVerdict (Table.ofTargets targets) (Table.ofTargets permuted) := by
  have htexts : (prefixTexts targets).Perm (prefixTexts permuted) := by
    unfold prefixTexts
    exact hperm.map _
  by_cases hdistinct : (prefixTexts targets).Nodup
  · have hdistinct' := htexts.nodup_iff.1 hdistinct
    by_cases hslash : "/" ∈ prefixTexts targets
    · have hslash' := htexts.mem_iff.1 hslash
      obtain ⟨table, htable⟩ := Table.exists_ofTargets_iff_prefixTexts.2 ⟨hdistinct, hslash⟩
      obtain ⟨other, hother⟩ := Table.exists_ofTargets_iff_prefixTexts.2 ⟨hdistinct', hslash'⟩
      rw [htable, hother]
      exact .accepted table other
    · have hslash' := mt htexts.mem_iff.2 hslash
      rw [Table.ofTargets_of_no_slash hdistinct hslash,
        Table.ofTargets_of_no_slash hdistinct' hslash']
      exact .noCatchAll
  · have hequal' := mt htexts.nodup_iff.2 hdistinct
    obtain ⟨text, htext, -⟩ := Table.exists_repeated_of_not_nodup hdistinct
    obtain ⟨text', htext', -⟩ := Table.exists_repeated_of_not_nodup hequal'
    rw [htext, htext']
    exact .repeated text text'

/-! ## The order of a table -/

/-- The same targets in order of precedence: longer prefixes first, equally long ones as they were
given. -/
structure IsOrdering (ordered targets : List Target) : Prop where
  perm : ordered.Perm targets
  longest_first : ordered.Pairwise fun a b => b.prefixSize ≤ a.prefixSize
  stable : ∀ size, (ordered.filter fun target => target.prefixSize = size) =
    targets.filter fun target => target.prefixSize = size

theorem isOrdering_longestFirst (targets : List Target) : IsOrdering (longestFirst targets) targets where
  perm := longestFirst_perm targets
  longest_first := pairwise_longestFirst targets
  stable := filter_prefixSize_longestFirst targets

theorem mem_iff_of_filter_prefixSize {a b : List Target}
    (hsame : ∀ size, (a.filter fun target => target.prefixSize = size) =
      b.filter fun target => target.prefixSize = size) (target : Target) : target ∈ a ↔ target ∈ b := by
  have hsize := congrArg (target ∈ ·) (hsame target.prefixSize)
  simpa using hsize

/-- Lists with longer prefixes first are equal if they have the same targets of each size. -/
theorem eq_of_filter_prefixSize {a b : List Target}
    (ha : a.Pairwise fun s t => t.prefixSize ≤ s.prefixSize)
    (hb : b.Pairwise fun s t => t.prefixSize ≤ s.prefixSize)
    (hsame : ∀ size, (a.filter fun target => target.prefixSize = size) =
      b.filter fun target => target.prefixSize = size) : a = b := by
  induction a generalizing b with
  | nil =>
      refine (List.eq_nil_iff_forall_not_mem.2 fun target htarget => ?_).symm
      exact List.not_mem_nil ((mem_iff_of_filter_prefixSize hsame target).2 htarget)
  | cons x a ih =>
      have hmem := mem_iff_of_filter_prefixSize hsame
      cases b with
      | nil => exact absurd ((hmem x).1 List.mem_cons_self) List.not_mem_nil
      | cons y b =>
          obtain ⟨hx, ha'⟩ := List.pairwise_cons.1 ha
          obtain ⟨hy, hb'⟩ := List.pairwise_cons.1 hb
          have hlargest : ∀ target ∈ x :: a, target.prefixSize ≤ x.prefixSize :=
            List.forall_mem_cons.2 ⟨Nat.le_refl _, hx⟩
          have hlargest' : ∀ target ∈ y :: b, target.prefixSize ≤ y.prefixSize :=
            List.forall_mem_cons.2 ⟨Nat.le_refl _, hy⟩
          -- Both heads have the greatest size there is, and are the first ones of that size.
          have hsize : x.prefixSize = y.prefixSize :=
            Nat.le_antisymm (hlargest' x ((hmem x).1 List.mem_cons_self))
              (hlargest y ((hmem y).2 List.mem_cons_self))
          have hhead : x = y := by
            have hfirst := hsame x.prefixSize
            rw [List.filter_cons_of_pos (by simp), List.filter_cons_of_pos (by simp [hsize])] at hfirst
            exact (List.cons.inj hfirst).1
          subst hhead
          have hrest (size : Nat) : (a.filter fun target => target.prefixSize = size) =
              b.filter fun target => target.prefixSize = size := by
            have hboth := hsame size
            rw [List.filter_cons, List.filter_cons] at hboth
            split at hboth
            · exact (List.cons.inj hboth).2
            · exact hboth
          rw [ih ha' hb' hrest]

/-- Nothing is left open by an order of precedence. -/
theorem IsOrdering.unique {a b targets : List Target} (ha : IsOrdering a targets)
    (hb : IsOrdering b targets) : a = b :=
  eq_of_filter_prefixSize ha.longest_first hb.longest_first fun size =>
    (ha.stable size).trans (hb.stable size).symm

/-- One target of a table takes every path. -/
theorem Table.eq_catchAll_iff (table : Table) (place : Fin table.targets.length) :
    place = table.catchAll ↔ table.targets[place].pathPrefix.text = "/" := by
  have hcatchAll := PathPrefix.isCatchAll_iff.1 table.catchAll_isCatchAll
  constructor
  · rintro rfl
    exact hcatchAll
  · intro hslash
    have hsame := PathPrefix.ext_text (hslash.trans hcatchAll.symm)
    have hone := table.eq_of_pathPrefix_eq (List.getElem_mem place.isLt)
      (List.getElem_mem table.catchAll.isLt) hsame
    exact Fin.ext ((List.Nodup.of_map _ table.distinct).getElem_inj_iff.1 hone)

/-- Targets make a table exactly if their prefixes are distinct and one of them is a single slash.
Equal prefixes are refused by naming one that occurs at least twice, whether or not there is a slash;
distinct ones without a slash are refused for lack of it; and the targets in any other order get the same
verdict. A table holds its targets with longer prefixes first and equally long ones as they were given,
and knows the place of the only one whose prefix is a slash. -/
theorem Table.ofTargets_exact (targets : List Target) :
    ((∃ table, Table.ofTargets targets = .ok table) ↔
      (prefixTexts targets).Nodup ∧ "/" ∈ prefixTexts targets) ∧
    (¬(prefixTexts targets).Nodup →
      ∃ text, Table.ofTargets targets = .error (.duplicatePrefix text) ∧
        2 ≤ (prefixTexts targets).count text) ∧
    ((prefixTexts targets).Nodup → "/" ∉ prefixTexts targets →
      Table.ofTargets targets = .error .missingCatchAll) ∧
    (∀ permuted, targets.Perm permuted →
      SameVerdict (Table.ofTargets targets) (Table.ofTargets permuted)) ∧
    ∀ table, Table.ofTargets targets = .ok table →
      (∀ ordered, IsOrdering ordered targets ↔ ordered = table.targets) ∧
        ∀ place : Fin table.targets.length,
          place = table.catchAll ↔ table.targets[place].pathPrefix.text = "/" := by
  refine ⟨Table.exists_ofTargets_iff_prefixTexts, Table.exists_repeated_of_not_nodup,
    Table.ofTargets_of_no_slash, fun permuted => Table.sameVerdict_of_perm, ?_⟩
  intro table haccepted
  refine ⟨fun ordered => ?_, table.eq_catchAll_iff⟩
  rw [Table.targets_of_ofTargets haccepted]
  constructor
  · exact fun hordered => hordered.unique (isOrdering_longestFirst targets)
  · rintro rfl
    exact isOrdering_longestFirst targets

end Gatehouse.Route
