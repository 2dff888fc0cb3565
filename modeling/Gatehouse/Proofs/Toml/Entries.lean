import Gatehouse.Toml.Value
import Mathlib.Data.List.Nodup

/-!
# Entries by key

Entries are a map as long as no key occurs twice. Setting an entry and adding one under a new key keep
it that way, and say of every key what stands under it afterwards. Laying a table over another goes
through the entries of the one on top, so that under each key the one on top is what counts.
-/

namespace Gatehouse.Toml

section Entries

variable {α : Type} {entries : List (String × α)} {key : String}

theorem mem_of_lookup_eq_some {value : α} (hfound : entries.lookup key = some value) :
    (key, value) ∈ entries := by
  obtain ⟨before, after, rfl, -⟩ := List.lookup_eq_some_iff.1 hfound
  exact List.mem_append_right before List.mem_cons_self

theorem not_mem_keys_of_lookup_eq_none (habsent : entries.lookup key = none) :
    key ∉ entries.map Prod.fst := by
  intro hkey
  obtain ⟨entry, hentry, rfl⟩ := List.mem_map.1 hkey
  have hother := List.lookup_eq_none_iff.1 habsent entry hentry
  exact ne_of_apply_ne id (bne_iff_ne.1 hother) rfl

theorem lookup_cons_ite (key name : String) (value : α) (entries : List (String × α)) :
    ((name, value) :: entries).lookup key = if key = name then some value else entries.lookup key := by
  rw [List.lookup_cons]
  by_cases hkey : key = name
  · rw [if_pos hkey, beq_iff_eq.2 hkey]
  · rw [if_neg hkey, beq_eq_false_iff_ne.2 hkey]

theorem lookup_setEntry (entries : List (String × α)) (key : String) (value : α) (other : String) :
    (setEntry key value entries).lookup other =
      if other = key then some value else entries.lookup other := by
  induction entries with
  | nil => exact lookup_cons_ite other key value []
  | cons entry entries ih =>
      obtain ⟨name, old⟩ := entry
      rw [setEntry, lookup_cons_ite]
      by_cases hname : name = key
      · rw [if_pos hname, lookup_cons_ite, hname]
        by_cases hother : other = key
        · rw [if_pos hother, if_pos hother]
        · rw [if_neg hother, if_neg hother, if_neg hother]
      · rw [if_neg hname, lookup_cons_ite, ih]
        by_cases hother : other = key
        · rw [if_pos hother, if_pos hother, if_neg (hother ▸ Ne.symm hname)]
        · rw [if_neg hother, if_neg hother]

theorem lookup_append_of_none (habsent : entries.lookup key = none) (value : α) (other : String) :
    (entries ++ [(key, value)]).lookup other =
      if other = key then some value else entries.lookup other := by
  rw [List.lookup_append, lookup_cons_ite]
  by_cases hother : other = key
  · rw [if_pos hother, if_pos hother, hother, habsent]
    rfl
  · rw [if_neg hother, if_neg hother]
    exact Option.or_none

/-- No key occurs twice. -/
def DistinctKeys (entries : List (String × α)) : Prop := (entries.map Prod.fst).Nodup

instance (entries : List (String × α)) : Decidable (DistinctKeys entries) :=
  inferInstanceAs (Decidable (entries.map Prod.fst).Nodup)

theorem distinctKeys_nil : DistinctKeys ([] : List (String × α)) := List.nodup_nil

theorem DistinctKeys.lookup_of_mem {value : α} (hkeys : DistinctKeys entries)
    (hentry : (key, value) ∈ entries) : entries.lookup key = some value := by
  cases hfound : entries.lookup key with
  | none => exact absurd (List.mem_map.2 ⟨_, hentry, rfl⟩) (not_mem_keys_of_lookup_eq_none hfound)
  | some other =>
      have hsame := List.inj_on_of_nodup_map hkeys (mem_of_lookup_eq_some hfound) hentry rfl
      exact congrArg some (congrArg Prod.snd hsame)

theorem DistinctKeys.append (hkeys : DistinctKeys entries) (habsent : entries.lookup key = none)
    (value : α) : DistinctKeys (entries ++ [(key, value)]) := by
  rw [DistinctKeys, List.map_append]
  exact List.Nodup.append hkeys (List.nodup_singleton key)
    (List.disjoint_singleton.2 (not_mem_keys_of_lookup_eq_none habsent))

theorem DistinctKeys.filter (hkeys : DistinctKeys entries) (p : String × α → Bool) :
    DistinctKeys (entries.filter p) :=
  List.Nodup.sublist (List.filter_sublist.map Prod.fst) hkeys

/-- The keys stay when the entry of one of them is set; a new key comes last. -/
theorem keys_setEntry (entries : List (String × α)) (key : String) (value : α) :
    (setEntry key value entries).map Prod.fst =
      if key ∈ entries.map Prod.fst then entries.map Prod.fst else entries.map Prod.fst ++ [key] := by
  induction entries with
  | nil => rfl
  | cons entry entries ih =>
      obtain ⟨name, old⟩ := entry
      rw [setEntry]
      by_cases hname : name = key
      · simp [hname]
      · rw [if_neg hname, List.map_cons, ih]
        by_cases hkey : key ∈ entries.map Prod.fst
        · simp [hkey]
        · simp [hkey, Ne.symm hname]

theorem DistinctKeys.setEntry (hkeys : DistinctKeys entries) (key : String) (value : α) :
    DistinctKeys (setEntry key value entries) := by
  rw [DistinctKeys, keys_setEntry]
  by_cases hkey : key ∈ entries.map Prod.fst
  · rw [if_pos hkey]
    exact hkeys
  · rw [if_neg hkey]
    exact List.Nodup.append hkeys (List.nodup_singleton key) (List.disjoint_singleton.2 hkey)

/-- An entry after one of them was set is that one or was there before. -/
theorem mem_setEntry {value : α} {entry : String × α} (hentry : entry ∈ setEntry key value entries) :
    entry = (key, value) ∨ entry ∈ entries := by
  induction entries with
  | nil => exact .inl (List.mem_singleton.1 hentry)
  | cons first entries ih =>
      obtain ⟨name, old⟩ := first
      rw [Toml.setEntry] at hentry
      by_cases hname : name = key
      · rw [if_pos hname] at hentry
        rcases List.mem_cons.1 hentry with heq | hentry
        · exact .inl heq
        · exact .inr (List.mem_cons_of_mem _ hentry)
      · rw [if_neg hname] at hentry
        rcases List.mem_cons.1 hentry with heq | hentry
        · exact .inr (heq ▸ List.mem_cons_self)
        · exact (ih hentry).imp_right (List.mem_cons_of_mem _)

end Entries

/-! ## Laying one table over another -/

theorem mergeEntries_nil (entries : List (String × Toml)) : mergeEntries entries [] = entries := by
  rw [mergeEntries]

theorem merge_table_table (entries overlay : List (String × Toml)) :
    merge (.table entries) (.table overlay) = .table (mergeEntries entries overlay) := by
  rw [merge]

/-- Over anything but a table, what lies on top is all that counts. -/
theorem merge_of_not_isTable {base : Toml} (hbase : base.isTable = false) (overlay : Toml) :
    merge base overlay = overlay := by
  cases overlay with
  | table entries =>
      cases base with
      | table _ => cases hbase
      | _ => rw [merge]; simp
  | _ => rw [merge]; simp

/-- What one entry of the overlay does: it is laid over the entry with its key, or added. -/
theorem mergeEntries_cons (entries : List (String × Toml)) (key : String) (value : Toml)
    (overlay : List (String × Toml)) :
    ∃ next, mergeEntries entries ((key, value) :: overlay) = mergeEntries next overlay ∧
      (DistinctKeys entries → DistinctKeys next) ∧
      ∀ other, next.lookup other =
        if other = key then some (((entries.lookup key).map fun old => merge old value).getD value)
        else entries.lookup other := by
  rw [mergeEntries]
  cases hold : entries.lookup key with
  | some old =>
      exact ⟨_, rfl, fun hkeys => hkeys.setEntry key _, fun other => lookup_setEntry entries key _ other⟩
  | none =>
      exact ⟨_, rfl, fun hkeys => hkeys.append hold value, lookup_append_of_none hold value⟩

theorem DistinctKeys.mergeEntries {entries : List (String × Toml)} (hkeys : DistinctKeys entries)
    (overlay : List (String × Toml)) : DistinctKeys (mergeEntries entries overlay) := by
  induction overlay generalizing entries with
  | nil =>
      rw [mergeEntries_nil]
      exact hkeys
  | cons entry overlay ih =>
      obtain ⟨next, hnext, hdistinct, -⟩ := mergeEntries_cons entries entry.1 entry.2 overlay
      rw [hnext]
      exact ih (hdistinct hkeys)

/-- Under a key stands what lies on top, laid over what was there; without anything on top nothing
changes. -/
theorem lookup_mergeEntries {overlay : List (String × Toml)} (hoverlay : DistinctKeys overlay)
    (entries : List (String × Toml)) (key : String) :
    (mergeEntries entries overlay).lookup key =
      match overlay.lookup key with
      | some value => some (((entries.lookup key).map fun old => merge old value).getD value)
      | none => entries.lookup key := by
  induction overlay generalizing entries with
  | nil =>
      rw [mergeEntries_nil]
      rfl
  | cons entry overlay ih =>
      obtain ⟨name, value⟩ := entry
      obtain ⟨hnew, hrest⟩ := List.nodup_cons.1 hoverlay
      obtain ⟨next, hnext, -, hlookup⟩ := mergeEntries_cons entries name value overlay
      rw [hnext, ih hrest, lookup_cons_ite, hlookup]
      by_cases hkey : key = name
      · have habsent : overlay.lookup name = none := by
          rw [List.lookup_eq_none_iff]
          intro other hother
          refine bne_iff_ne.2 ?_
          rintro rfl
          exact hnew (List.mem_map.2 ⟨other, hother, rfl⟩)
        rw [if_pos hkey, if_pos hkey, hkey, habsent]
      · rw [if_neg hkey, if_neg hkey]

end Gatehouse.Toml
