import Gatehouse.Http.Headers
import Mathlib.Data.List.Basic

/-!
# Grouped fields

A message shows its fields name by name: each name where it first appears, with all its values. No field
is lost by this, and none is shown twice. Fields that are added in this order show in the same way again,
and leaving out names leaves out their groups.
-/

namespace Gatehouse.Http

/-! ## Lists without repetitions -/

section

variable {α : Type} [BEq α] [LawfulBEq α]

theorem nodup_eraseDups : ∀ l : List α, l.eraseDups.Nodup
  | [] => by simp
  | a :: l => by
      have hshorter : (l.filter fun b => !b == a).length < l.length + 1 :=
        Nat.lt_succ_of_le (List.length_filter_le _ _)
      rw [List.eraseDups_cons, List.nodup_cons]
      refine ⟨fun hmem => ?_, nodup_eraseDups _⟩
      have hother := (List.mem_filter.1 (List.mem_eraseDups.1 hmem)).2
      simp at hother
termination_by l => l.length

/-- Members are left out before or after repetitions. -/
theorem eraseDups_filter (p : α → Bool) : ∀ l : List α, (l.filter p).eraseDups = l.eraseDups.filter p
  | [] => by simp
  | a :: l => by
      have hshorter : (l.filter fun b => !b == a).length < l.length + 1 :=
        Nat.lt_succ_of_le (List.length_filter_le _ _)
      have hrest := eraseDups_filter p (l.filter fun b => !b == a)
      rw [List.eraseDups_cons, List.filter_cons, List.filter_cons, ← hrest]
      split
      · rw [List.eraseDups_cons, List.filter_comm]
      · next hdropped =>
          congr 1
          rw [List.filter_filter]
          refine List.filter_congr fun b _ => ?_
          cases hb : p b with
          | false => rfl
          | true =>
              have hne : b ≠ a := fun heq => hdropped (heq ▸ hb)
              simp [hne]
termination_by l => l.length

/-- Of members that stand together once is enough. -/
theorem eraseDups_flatMap_replicate {times : α → Nat} {l : List α} (hdistinct : l.Nodup)
    (hsome : ∀ a ∈ l, times a ≠ 0) :
    (l.flatMap fun a => List.replicate (times a) a).eraseDups = l := by
  induction l with
  | nil => rfl
  | cons a l ih =>
      obtain ⟨hnew, hdistinct⟩ := List.nodup_cons.1 hdistinct
      obtain ⟨ha, hrest⟩ := List.forall_mem_cons.1 hsome
      obtain ⟨more, hmore⟩ := Nat.exists_eq_succ_of_ne_zero ha
      have hcopies : (List.replicate more a).filter (fun b => !b == a) = [] := by
        simp
      have hothers : (l.flatMap fun a => List.replicate (times a) a).filter (fun b => !b == a) =
          l.flatMap fun a => List.replicate (times a) a := by
        refine List.filter_eq_self.2 fun b hb => ?_
        obtain ⟨c, hc, hbc⟩ := List.mem_flatMap.1 hb
        have hne : b ≠ a := by
          rw [List.eq_of_mem_replicate hbc]
          rintro rfl
          exact hnew hc
        simpa using hne
      rw [List.flatMap_cons, hmore, List.replicate_succ, List.cons_append, List.eraseDups_cons,
        List.filter_append, hcopies, hothers, List.nil_append, ih hdistinct hrest]

end

/-- The members of a list under each of their keys are all its members. -/
theorem flatMap_filter_perm {α β : Type} [DecidableEq α] (key : β → α) {keys : List α}
    (hdistinct : keys.Nodup) {l : List β} (hkeys : ∀ b ∈ l, key b ∈ keys) :
    (keys.flatMap fun a => l.filter fun b => key b = a).Perm l := by
  induction keys generalizing l with
  | nil =>
      rw [List.eq_nil_iff_forall_not_mem.2 fun b hb => List.not_mem_nil (hkeys b hb)]
      exact .nil
  | cons a keys ih =>
      obtain ⟨hnew, hdistinct⟩ := List.nodup_cons.1 hdistinct
      have hothers : (keys.flatMap fun other => l.filter fun b => key b = other) =
          keys.flatMap fun other => (l.filter fun b => !decide (key b = a)).filter
            fun b => key b = other := by
        refine List.flatMap_congr fun other hother => ?_
        rw [List.filter_filter]
        refine List.filter_congr fun b _ => ?_
        by_cases hkey : key b = other
        · have hne : key b ≠ a := fun heq => hnew (heq ▸ hkey ▸ hother)
          simp [hkey, hkey ▸ hne]
        · simp [hkey]
      have hrest : ∀ b ∈ l.filter fun b => !decide (key b = a), key b ∈ keys := by
        intro b hb
        obtain ⟨hmem, hne⟩ := List.mem_filter.1 hb
        exact (List.mem_cons.1 (hkeys b hmem)).resolve_left (by simpa using hne)
      rw [List.flatMap_cons, hothers]
      exact ((ih hdistinct hrest).append_left _).trans (List.filter_append_perm _ l)

/-- One member of a list without repetitions is singled out. -/
theorem flatMap_ite_eq {α β : Type} [DecidableEq α] (f : α → List β) {l : List α}
    (hdistinct : l.Nodup) (a : α) :
    (l.flatMap fun b => if b = a then f b else []) = if a ∈ l then f a else [] := by
  induction l with
  | nil => rfl
  | cons b l ih =>
      obtain ⟨hnew, hdistinct⟩ := List.nodup_cons.1 hdistinct
      rw [List.flatMap_cons, ih hdistinct]
      by_cases hba : b = a
      · subst hba
        simp [hnew]
      · simp [hba, Ne.symm hba]

namespace Headers

/-- Add fields to a message one by one. -/
def appendEach (headers : Headers) (fields : List (FieldName × FieldValue)) : Headers :=
  fields.foldl (fun headers field => headers.append field.1 field.2) headers

theorem appendEach_eq (headers : Headers) (fields : List (FieldName × FieldValue)) :
    headers.appendEach fields = ⟨headers.fields ++ fields⟩ := by
  induction fields generalizing headers with
  | nil => rw [List.append_nil]; rfl
  | cons field fields ih =>
      rw [appendEach, List.foldl_cons]
      refine (ih _).trans ?_
      rw [append, List.append_assoc]
      rfl

/-- How many fields a message has. -/
def size (headers : Headers) : Nat := headers.fields.length

/-! ## Names -/

theorem nodup_names (headers : Headers) : headers.names.Nodup := nodup_eraseDups _

theorem mem_names_iff {headers : Headers} {name : FieldName} :
    name ∈ headers.names ↔ headers.values name ≠ [] := by
  rw [names, List.mem_eraseDups, List.mem_map, values, Ne, List.map_eq_nil_iff, List.filter_eq_nil_iff]
  simp only [decide_eq_true_eq, not_forall, not_not, exists_prop]

@[simp] theorem names_filterNames (p : FieldName → Bool) (headers : Headers) :
    (headers.filterNames p).names = headers.names.filter p := by
  rw [names, names, ← eraseDups_filter, List.filter_map]
  rfl

/-! ## Groups -/

/-- Grouping moves fields and does nothing else to them. -/
theorem grouped_perm (headers : Headers) : headers.grouped.Perm headers.fields := by
  have hgroup (name : FieldName) : ((headers.values name).map fun value => (name, value)) =
      headers.fields.filter fun field => field.1 = name := by
    rw [values, List.map_map]
    refine (List.map_congr_left fun field hfield => ?_).trans (List.map_id _)
    exact Prod.ext (of_decide_eq_true (List.mem_filter.1 hfield).2).symm rfl
  rw [grouped]
  simp only [hgroup]
  refine flatMap_filter_perm (fun field : FieldName × FieldValue => field.1) headers.nodup_names
    fun field hfield => ?_
  rw [names, List.mem_eraseDups]
  exact List.mem_map_of_mem hfield

/-- There are as many fields as values of all names together. -/
theorem size_eq (headers : Headers) : headers.size = (headers.names.flatMap headers.values).length := by
  have hvalues : headers.grouped.map (·.2) = headers.names.flatMap headers.values := by
    rw [grouped, List.map_flatMap]
    refine List.flatMap_congr fun name _ => ?_
    rw [List.map_map]
    exact List.map_id _
  rw [size, ← headers.grouped_perm.length_eq, ← hvalues, List.length_map]

/-- The groups of the names that are kept. -/
@[simp] theorem grouped_filterNames (p : FieldName → Bool) (headers : Headers) :
    (headers.filterNames p).grouped = headers.grouped.filter fun field => p field.1 := by
  rw [grouped, grouped, names_filterNames, List.filter_flatMap]
  induction headers.names with
  | nil => rfl
  | cons name names ih =>
      rw [List.filter_cons, List.flatMap_cons, ← ih, List.filter_map]
      cases hname : p name with
      | true => simp [hname, Function.comp_def]
      | false => simp [hname, Function.comp_def]

/-- The values of a name in the fields as they are grouped. -/
theorem values_ofGrouped (headers : Headers) (name : FieldName) :
    (⟨headers.grouped⟩ : Headers).values name = headers.values name := by
  have hgroup (other : FieldName) :
      ((headers.values other).map fun value => (other, value)).filter
          (fun field => decide (field.1 = name)) =
        if other = name then (headers.values other).map fun value => (other, value) else [] := by
    rw [List.filter_map]
    by_cases hname : other = name
    · simp [hname, Function.comp_def]
    · simp [hname, Function.comp_def]
  rw [values, grouped, List.filter_flatMap]
  simp only [hgroup]
  rw [flatMap_ite_eq _ headers.nodup_names]
  split
  · rw [List.map_map]
    exact List.map_id _
  · next habsent =>
      exact (not_not.1 (mt mem_names_iff.2 habsent)).symm

/-- The names of the fields as they are grouped. -/
theorem names_ofGrouped (headers : Headers) :
    (⟨headers.grouped⟩ : Headers).names = headers.names := by
  have hcopies : headers.grouped.map (·.1) =
      headers.names.flatMap fun name => List.replicate (headers.values name).length name := by
    rw [grouped, List.map_flatMap]
    simp only [List.map_map, Function.comp_def, List.map_const']
  rw [names, hcopies]
  refine eraseDups_flatMap_replicate headers.nodup_names fun name hname => ?_
  exact mt List.length_eq_zero_iff.1 (mem_names_iff.1 hname)

/-- Messages are grouped alike if they have the same names in one order, each with the same values. -/
theorem grouped_eq_iff {a b : Headers} :
    a.grouped = b.grouped ↔ a.names = b.names ∧ ∀ name, a.values name = b.values name := by
  constructor
  · intro hsame
    refine ⟨?_, fun name => ?_⟩
    · rw [← a.names_ofGrouped, ← b.names_ofGrouped, hsame]
    · rw [← a.values_ofGrouped, ← b.values_ofGrouped, hsame]
  · rintro ⟨hnames, hvalues⟩
    rw [grouped, grouped, hnames]
    simp only [hvalues]

/-- Fields in groups are grouped already. -/
theorem grouped_ofGrouped (headers : Headers) :
    (⟨headers.grouped⟩ : Headers).grouped = headers.grouped :=
  grouped_eq_iff.2 ⟨headers.names_ofGrouped, headers.values_ofGrouped⟩

end Headers

end Gatehouse.Http
