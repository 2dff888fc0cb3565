import Gatehouse.Proofs.Json.RoundTrip
import Gatehouse.Proofs.Toml.Entries
import Mathlib.Data.String.Basic

/-!
# Objects as maps

Sorting the members of an object keeps the last value of every name and nothing else. Doing so in every
object of a value gives its canonical form, which stays as it is from then on: it is nested no deeper, and
its numbers are numbers of the value.
-/

namespace Gatehouse.Json

/-! ## Sorted members -/

section Members

variable {α β : Type} {name : String} {value : α} {members sorted : List (String × α)}

/-- The names of the members grow from one to the next. -/
def Ascending (members : List (String × α)) : Prop := members.Pairwise fun a b => a.1 < b.1

theorem Ascending.distinctKeys (hsorted : Ascending members) : Toml.DistinctKeys members :=
  List.pairwise_map.2 (hsorted.imp ne_of_lt)

theorem mem_insertMember {member : String × α} (hmember : member ∈ insertMember name value sorted) :
    member = (name, value) ∨ member ∈ sorted := by
  induction sorted with
  | nil => exact .inl (List.mem_singleton.1 hmember)
  | cons first sorted ih =>
      obtain ⟨other, old⟩ := first
      rw [insertMember] at hmember
      split at hmember
      · exact List.mem_cons.1 hmember
      · split at hmember
        · exact (List.mem_cons.1 hmember).imp_right (List.mem_cons_of_mem _)
        · rcases List.mem_cons.1 hmember with rfl | hmember
          · exact .inr List.mem_cons_self
          · exact (ih hmember).imp_right (List.mem_cons_of_mem _)

theorem Ascending.insertMember (hsorted : Ascending sorted) (name : String) (value : α) :
    Ascending (insertMember name value sorted) := by
  induction sorted with
  | nil => exact List.pairwise_singleton _ _
  | cons first sorted ih =>
      obtain ⟨other, old⟩ := first
      obtain ⟨hfirst, hrest⟩ := List.pairwise_cons.1 hsorted
      rw [Json.insertMember]
      split
      · next hbefore =>
          refine List.pairwise_cons.2 ⟨fun member hmember => ?_, hsorted⟩
          rcases List.mem_cons.1 hmember with rfl | hmember
          · exact hbefore
          · exact lt_trans hbefore (hfirst member hmember)
      · next hnotBefore =>
          split
          · next hsame =>
              subst hsame
              exact List.pairwise_cons.2 ⟨hfirst, hrest⟩
          · next hother =>
              refine List.pairwise_cons.2 ⟨fun member hmember => ?_, ih hrest⟩
              rcases mem_insertMember hmember with rfl | hmember
              · exact lt_of_le_of_ne (not_lt.1 hnotBefore) (Ne.symm hother)
              · exact hfirst member hmember

theorem lookup_insertMember (sorted : List (String × α)) (name : String) (value : α)
    (other : String) :
    (insertMember name value sorted).lookup other =
      if other = name then some value else sorted.lookup other := by
  induction sorted with
  | nil => exact Toml.lookup_cons_ite other name value []
  | cons first sorted ih =>
      obtain ⟨next, old⟩ := first
      rw [insertMember]
      split
      · exact Toml.lookup_cons_ite other name value _
      · split
        · next hsame =>
            rw [Toml.lookup_cons_ite, Toml.lookup_cons_ite, hsame]
            split <;> rfl
        · next hdiffers =>
            rw [Toml.lookup_cons_ite, Toml.lookup_cons_ite, ih]
            by_cases hnext : other = next
            · rw [if_pos hnext, if_pos hnext, if_neg (hnext ▸ Ne.symm hdiffers)]
            · rw [if_neg hnext, if_neg hnext]

/-- A member whose name comes after all others goes to the end. -/
theorem insertMember_of_last (hlast : ∀ member ∈ sorted, member.1 < name) (value : α) :
    insertMember name value sorted = sorted ++ [(name, value)] := by
  induction sorted with
  | nil => rfl
  | cons first sorted ih =>
      obtain ⟨hfirst, hrest⟩ := List.forall_mem_cons.1 hlast
      rw [insertMember, if_neg (lt_asymm hfirst), if_neg (ne_of_gt hfirst), ih hrest]
      rfl

theorem ascending_sortMembers (members : List (String × α)) : Ascending (sortMembers members) := by
  have hfold : ∀ sorted : List (String × α), Ascending sorted →
      Ascending (members.foldl (fun sorted member => insertMember member.1 member.2 sorted) sorted) := by
    induction members with
    | nil => exact fun _ hsorted => hsorted
    | cons member members ih => exact fun _ hsorted => ih _ (hsorted.insertMember _ _)
  exact hfold [] List.Pairwise.nil

theorem mem_of_mem_sortMembers {member : String × α} (hmember : member ∈ sortMembers members) :
    member ∈ members := by
  have hfold : ∀ sorted : List (String × α),
      member ∈ members.foldl (fun sorted member => insertMember member.1 member.2 sorted) sorted →
        member ∈ members ∨ member ∈ sorted := by
    clear hmember
    induction members with
    | nil => exact fun _ hmember => .inr hmember
    | cons first members ih =>
        intro sorted hmember
        rcases ih _ hmember with hrest | hsorted
        · exact .inl (List.mem_cons_of_mem _ hrest)
        · rcases mem_insertMember hsorted with rfl | hsorted
          · exact .inl List.mem_cons_self
          · exact .inr hsorted
  exact (hfold [] hmember).resolve_right List.not_mem_nil

/-- Under every name stands the value of the last member with that name. -/
theorem lookup_sortMembers (members : List (String × α)) (name : String) :
    (sortMembers members).lookup name = members.reverse.lookup name := by
  have hfold : ∀ sorted : List (String × α),
      (members.foldl (fun sorted member => insertMember member.1 member.2 sorted) sorted).lookup name =
        (members.reverse.lookup name).or (sorted.lookup name) := by
    induction members with
    | nil => exact fun _ => rfl
    | cons member members ih =>
        intro sorted
        rw [List.foldl_cons, ih, List.reverse_cons, List.lookup_append, Option.or_assoc,
          lookup_insertMember, Toml.lookup_cons_ite]
        split <;> rfl
  exact (hfold []).trans Option.or_none

theorem sortMembers_of_ascending (hsorted : Ascending members) : sortMembers members = members := by
  have hfold : ∀ sorted : List (String × α), Ascending (sorted ++ members) →
      members.foldl (fun sorted member => insertMember member.1 member.2 sorted) sorted =
        sorted ++ members := by
    clear hsorted
    induction members with
    | nil => exact fun sorted _ => (List.append_nil sorted).symm
    | cons member members ih =>
        intro sorted hsorted
        obtain ⟨-, -, hbefore⟩ := List.pairwise_append.1 hsorted
        have hlast : ∀ other ∈ sorted, other.1 < member.1 := fun other hother =>
          hbefore other hother member List.mem_cons_self
        have hnext := insertMember_of_last hlast member.2
        rw [List.append_cons] at hsorted ⊢
        rw [List.foldl_cons, ← ih _ hsorted]
        exact congrArg (members.foldl _) hnext
  exact hfold [] hsorted

/-- Changing every value changes the one that stands under a name. -/
theorem lookup_map_snd (f : α → β) (members : List (String × α)) (name : String) :
    (members.map fun member => (member.1, f member.2)).lookup name = (members.lookup name).map f := by
  induction members with
  | nil => rfl
  | cons member members ih =>
      rw [List.map_cons, Toml.lookup_cons_ite, Toml.lookup_cons_ite, ih]
      split <;> rfl

end Members

/-! ## Values from the inside out -/

/-- What holds of arrays and objects of which it holds inside, and of everything else, holds of each
value. -/
@[elab_as_elim]
theorem inductionOn {P : Json → Prop} (v : Json) (null : P .null) (bool : ∀ b, P (.bool b))
    (int : ∀ n, P (.int n)) (float : ∀ x, P (.float x)) (str : ∀ s, P (.str s))
    (arr : ∀ items, (∀ item ∈ items, P item) → P (.arr items))
    (obj : ∀ members : List (String × Json), (∀ member ∈ members, P member.2) → P (.obj members)) :
    P v := by
  refine Json.rec (motive_1 := P) (motive_2 := fun items => ∀ item ∈ items, P item)
    (motive_3 := fun members => ∀ member ∈ members, P member.2) (motive_4 := fun member => P member.2)
    null bool int float str arr obj ?_ ?_ ?_ ?_ ?_ v
  · exact nofun
  · exact fun item items hitem hitems => List.forall_mem_cons.2 ⟨hitem, hitems⟩
  · exact nofun
  · exact fun member members hmember hmembers => List.forall_mem_cons.2 ⟨hmember, hmembers⟩
  · exact fun name value hvalue => hvalue

theorem canonicalItems_eq_map (items : List Json) : canonicalItems items = items.map canonical := by
  induction items with
  | nil => rw [canonicalItems, List.map_nil]
  | cons item items ih => rw [canonicalItems, ih, List.map_cons]

theorem canonicalMembers_eq_map (members : List (String × Json)) :
    canonicalMembers members = members.map fun member => (member.1, member.2.canonical) := by
  induction members with
  | nil => rw [canonicalMembers, List.map_nil]
  | cons member members ih => rw [canonicalMembers, ih, List.map_cons]

/-- What stands in the canonical form of an object is the canonical form of what stood in it. -/
theorem exists_of_mem_canonical {members : List (String × Json)} {member : String × Json}
    (hmember : member ∈ sortMembers (canonicalMembers members)) :
    ∃ source ∈ members, member = (source.1, source.2.canonical) := by
  have hmapped := mem_of_mem_sortMembers hmember
  rw [canonicalMembers_eq_map] at hmapped
  obtain ⟨source, hsource, rfl⟩ := List.mem_map.1 hmapped
  exact ⟨source, hsource, rfl⟩

/-- Sorted members with canonical values stay as they are. -/
theorem sortMembers_canonicalMembers_of {members : List (String × Json)} (hsorted : Ascending members)
    (hvalues : ∀ member ∈ members, member.2.canonical = member.2) :
    sortMembers (canonicalMembers members) = members := by
  have hsame : canonicalMembers members = members := by
    rw [canonicalMembers_eq_map]
    refine (List.map_congr_left fun member hmember => ?_).trans (List.map_id members)
    rw [hvalues member hmember]
    rfl
  rw [hsame, sortMembers_of_ascending hsorted]

theorem canonical_canonical (v : Json) : v.canonical.canonical = v.canonical := by
  induction v using inductionOn with
  | null => rfl
  | bool b => rfl
  | int n => rfl
  | float x => rfl
  | str s => rfl
  | arr items ih =>
      simp only [canonical, canonicalItems_eq_map, List.map_map]
      exact congrArg arr (List.map_congr_left ih)
  | obj members ih =>
      simp only [canonical]
      refine congrArg obj (sortMembers_canonicalMembers_of (ascending_sortMembers _) ?_)
      intro member hmember
      obtain ⟨source, hsource, rfl⟩ := exists_of_mem_canonical hmember
      exact ih source hsource

/-! ## What is kept -/

theorem depthItems_le_iff {items : List Json} {n : Nat} :
    depthItems items ≤ n ↔ ∀ item ∈ items, item.depth ≤ n := by
  induction items with
  | nil => exact iff_of_true (Nat.zero_le n) nofun
  | cons item items ih => rw [depthItems, Nat.max_le, List.forall_mem_cons, ih]

theorem depthMembers_le_iff {members : List (String × Json)} {n : Nat} :
    depthMembers members ≤ n ↔ ∀ member ∈ members, member.2.depth ≤ n := by
  induction members with
  | nil => exact iff_of_true (Nat.zero_le n) nofun
  | cons member members ih => rw [depthMembers, Nat.max_le, List.forall_mem_cons, ih]

theorem depth_canonical_le (v : Json) : v.canonical.depth ≤ v.depth := by
  induction v using inductionOn with
  | null => exact Nat.le_refl _
  | bool b => exact Nat.le_refl _
  | int n => exact Nat.le_refl _
  | float x => exact Nat.le_refl _
  | str s => exact Nat.le_refl _
  | arr items ih =>
      simp only [canonical, depth, canonicalItems_eq_map]
      refine Nat.succ_le_succ (depthItems_le_iff.2 (List.forall_mem_map.2 fun item hitem => ?_))
      exact Nat.le_trans (ih item hitem) (depthItems_le_iff.1 (Nat.le_refl _) item hitem)
  | obj members ih =>
      simp only [canonical, depth]
      refine Nat.succ_le_succ (depthMembers_le_iff.2 fun member hmember => ?_)
      obtain ⟨source, hsource, rfl⟩ := exists_of_mem_canonical hmember
      exact Nat.le_trans (ih source hsource) (depthMembers_le_iff.1 (Nat.le_refl _) source hsource)

/-- What holds of arrays and objects exactly when it holds of everything inside is kept. -/
theorem canonical_of_inside {P : Json → Prop}
    (harr : ∀ items, P (.arr items) ↔ ∀ item ∈ items, P item)
    (hobj : ∀ members : List (String × Json), P (.obj members) ↔ ∀ member ∈ members, P member.2)
    {v : Json} (hv : P v) : P v.canonical := by
  induction v using inductionOn with
  | null => exact hv
  | bool b => exact hv
  | int n => exact hv
  | float x => exact hv
  | str s => exact hv
  | arr items ih =>
      have hitems := (harr items).1 hv
      rw [canonical, canonicalItems_eq_map, harr]
      exact List.forall_mem_map.2 fun item hitem => ih item hitem (hitems item hitem)
  | obj members ih =>
      have hmembers := (hobj members).1 hv
      rw [canonical, hobj]
      intro member hmember
      obtain ⟨source, hsource, rfl⟩ := exists_of_mem_canonical hmember
      exact ih source hsource (hmembers source hsource)

theorem finite_arr_iff (items : List Json) :
    finite (.arr items) = true ↔ ∀ item ∈ items, item.finite = true := by
  rw [finite]
  induction items with
  | nil => exact iff_of_true rfl nofun
  | cons item items ih => rw [finiteItems, Bool.and_eq_true, List.forall_mem_cons, ih]

theorem finite_obj_iff (members : List (String × Json)) :
    finite (.obj members) = true ↔ ∀ member ∈ members, member.2.finite = true := by
  rw [finite]
  induction members with
  | nil => exact iff_of_true rfl nofun
  | cons member members ih => rw [finiteMembers, Bool.and_eq_true, List.forall_mem_cons, ih]

theorem finite_canonical {v : Json} (hfinite : v.finite = true) : v.canonical.finite = true :=
  canonical_of_inside (P := fun v => v.finite = true) finite_arr_iff finite_obj_iff hfinite

theorem isWhole_arr_iff (items : List Json) :
    isWhole (.arr items) = true ↔ ∀ item ∈ items, item.isWhole = true := by
  rw [isWhole]
  induction items with
  | nil => exact iff_of_true rfl nofun
  | cons item items ih => rw [areWhole, Bool.and_eq_true, List.forall_mem_cons, ih]

theorem isWhole_canonical {v : Json} (hwhole : v.isWhole = true) : v.canonical.isWhole = true :=
  canonical_of_inside (P := fun v => v.isWhole = true) isWhole_arr_iff (fun _ => isWhole_obj_iff) hwhole

end Gatehouse.Json
