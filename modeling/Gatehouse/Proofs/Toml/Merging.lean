import Gatehouse.Proofs.Toml.DistinctKeys

/-!
# One document over another

What stands at a path after a document was laid over another: what the upper one says there, and what the
lower one says where the upper one is silent and both have tables all the way down to it. Nothing of the
lower one shines through below a value that is no table. To lay the same document over the result once
more makes no difference.
-/

namespace Gatehouse.Toml

/-! ## Paths -/

theorem at?_cons (key : String) (path : List String) (value : Toml) :
    at? (key :: path) value = (value.get? key).bind (at? path) := rfl

theorem at?_append (path below : List String) (value : Toml) :
    at? (path ++ below) value = (at? path value).bind (at? below) := by
  induction path generalizing value with
  | nil => rfl
  | cons key path ih =>
      rw [List.cons_append, at?_cons, at?_cons]
      cases value.get? key with
      | none => rfl
      | some inner => exact ih inner

theorem get?_of_not_isTable {value : Toml} (hvalue : value.isTable = false) (key : String) :
    value.get? key = none := by
  cases value with
  | table => cases hvalue
  | _ => rfl

theorem isTable_of_get? {key : String} {value inner : Toml} (hfound : value.get? key = some inner) :
    value.isTable = true := by
  cases htable : value.isTable with
  | true => rfl
  | false =>
      rw [get?_of_not_isTable htable] at hfound
      cases hfound

/-! ## Under one key -/

/-- A value that is no table replaces whatever it is laid over. -/
theorem merge_value {overlay : Toml} (hoverlay : overlay.isTable = false) (base : Toml) :
    merge base overlay = overlay := by
  cases overlay with
  | table => cases hoverlay
  | _ => rw [merge]; simp

theorem isTable_merge (base : Toml) {overlay : Toml} (hoverlay : overlay.isTable = true) :
    (merge base overlay).isTable = true := by
  cases hbase : base.isTable with
  | false =>
      rw [merge_of_not_isTable hbase]
      exact hoverlay
  | true =>
      cases base <;> cases hbase
      cases overlay <;> cases hoverlay
      rw [merge_table_table]
      rfl

/-- Under a key of two tables stands what the upper one has there, laid over what the lower one has. -/
theorem get?_merge {base overlay : Toml} (hproper : Proper overlay) (hbase : base.isTable = true)
    (hoverlay : overlay.isTable = true) (key : String) :
    (merge base overlay).get? key =
      match overlay.get? key with
      | some value => some (((base.get? key).map fun old => merge old value).getD value)
      | none => base.get? key := by
  cases base <;> cases hbase
  cases overlay <;> cases hoverlay
  rw [merge_table_table]
  exact lookup_mergeEntries hproper.distinctKeys _ key

/-! ## At a path -/

/-- Where the upper document has something, that is laid over what the lower one has there. -/
theorem at?_merge_of_some (base : Toml) {overlay value : Toml} (hproper : Proper overlay)
    {path : List String} (hfound : overlay.at? path = some value) :
    (merge base overlay).at? path = some (((base.at? path).map fun old => merge old value).getD value) := by
  induction path generalizing base overlay with
  | nil =>
      cases hfound
      rfl
  | cons key path ih =>
      obtain ⟨inner, hinner, hrest⟩ := Option.bind_eq_some_iff.1 hfound
      cases hbase : base.isTable with
      | false =>
          rw [merge_of_not_isTable hbase, hfound, at?_cons, get?_of_not_isTable hbase]
          rfl
      | true =>
          rw [at?_cons, get?_merge hproper hbase (isTable_of_get? hinner), hinner, at?_cons]
          cases base.get? key with
          | none => exact hrest
          | some old => exact ih old (hproper.of_get? hinner) hrest

/-- Wherever the upper document has something above a path, both documents have tables. -/
def TablesAbove (base overlay : Toml) (path : List String) : Prop :=
  ∀ above below value, path = above ++ below → below ≠ [] → overlay.at? above = some value →
    value.isTable = true ∧ ∃ old, base.at? above = some old ∧ old.isTable = true

theorem TablesAbove.isTable {base overlay : Toml} {key : String} {path : List String}
    (htables : TablesAbove base overlay (key :: path)) :
    overlay.isTable = true ∧ base.isTable = true := by
  obtain ⟨hoverlay, old, hold, hbase⟩ := htables [] (key :: path) overlay rfl (List.cons_ne_nil _ _) rfl
  cases hold
  exact ⟨hoverlay, hbase⟩

/-- What both documents have under the first key has tables above the rest of the path. -/
theorem TablesAbove.tail {base overlay old value : Toml} {key : String} {path : List String}
    (htables : TablesAbove base overlay (key :: path)) (hold : base.get? key = some old)
    (hvalue : overlay.get? key = some value) : TablesAbove old value path := by
  intro above below found hpath hbelow hfound
  have hupper : overlay.at? (key :: above) = some found := by rw [at?_cons, hvalue]; exact hfound
  have hlower : base.at? (key :: above) = old.at? above := by rw [at?_cons, hold]; rfl
  rw [← hlower]
  exact htables (key :: above) below found (by rw [hpath, List.cons_append]) hbelow hupper

/-- Where the upper document is silent, and there are tables above, nothing changes. -/
theorem at?_merge_of_none {base overlay : Toml} (hproper : Proper overlay) {path : List String}
    (hnone : overlay.at? path = none) (htables : TablesAbove base overlay path) :
    (merge base overlay).at? path = base.at? path := by
  induction path generalizing base overlay with
  | nil => cases hnone
  | cons key path ih =>
      obtain ⟨hoverlay, hbase⟩ := htables.isTable
      rw [at?_cons, at?_cons, get?_merge hproper hbase hoverlay]
      cases hvalue : overlay.get? key with
      | none => rfl
      | some value =>
          rw [at?_cons, hvalue] at hnone
          have hrest : value.at? path = none := hnone
          -- The path goes on behind a key that the upper document has, so that the lower one has it too.
          have hpath : path ≠ [] := by
            rintro rfl
            cases hrest
          obtain ⟨-, old, hold, -⟩ :=
            htables [key] path value rfl hpath (by rw [at?_cons, hvalue]; rfl)
          obtain ⟨inner, hinner, hsame⟩ := Option.bind_eq_some_iff.1 hold
          cases hsame
          rw [hinner]
          exact ih (hproper.of_get? hvalue) hrest (htables.tail hinner hvalue)

/-! ## Keys of tables -/

/-- The keys of a table. -/
def keys : Toml → List String
  | .table entries => entries.map Prod.fst
  | _ => []

theorem mem_keys_iff {key : String} {value : Toml} :
    key ∈ value.keys ↔ ∃ inner, value.get? key = some inner := by
  cases value with
  | table entries =>
      constructor
      · intro hkey
        refine Option.ne_none_iff_exists'.1 fun hnone => ?_
        exact not_mem_keys_of_lookup_eq_none hnone hkey
      · rintro ⟨inner, hinner⟩
        exact List.mem_map.2 ⟨_, mem_of_lookup_eq_some hinner, rfl⟩
  | _ => exact iff_of_false List.not_mem_nil nofun

theorem isTable_of_mem_keys {key : String} {value : Toml} (hkey : key ∈ value.keys) :
    value.isTable = true := by
  obtain ⟨inner, hinner⟩ := mem_keys_iff.1 hkey
  exact isTable_of_get? hinner

/-- A table that is laid over a table adds its keys; over anything else it has no others. -/
theorem mem_keys_merge {base overlay : Toml} (hproper : Proper overlay)
    (hoverlay : overlay.isTable = true) (key : String) :
    key ∈ (merge base overlay).keys ↔ key ∈ overlay.keys ∨ key ∈ base.keys := by
  cases hbase : base.isTable with
  | false =>
      have hnone : key ∉ base.keys := fun hkey => by
        rw [isTable_of_mem_keys hkey] at hbase
        cases hbase
      rw [merge_of_not_isTable hbase, or_iff_left hnone]
  | true =>
      simp only [mem_keys_iff, get?_merge hproper hbase hoverlay]
      cases overlay.get? key <;> simp

/-! ## The same document again -/

theorem setEntry_of_lookup {α : Type} {entries : List (String × α)} {key : String} {value : α}
    (hfound : entries.lookup key = some value) : setEntry key value entries = entries := by
  induction entries with
  | nil => cases hfound
  | cons entry entries ih =>
      obtain ⟨name, old⟩ := entry
      rw [lookup_cons_ite] at hfound
      rw [setEntry]
      by_cases hname : key = name
      · rw [if_pos hname] at hfound
        cases hfound
        rw [if_pos hname.symm, hname]
      · rw [if_neg hname] at hfound
        rw [if_neg (Ne.symm hname), ih hfound]

/-- Entries stay as they are when each entry on top has been laid over the one with its key before. -/
theorem mergeEntries_eq_self {entries overlay : List (String × Toml)}
    (hlaid : ∀ entry ∈ overlay, ∃ old, entries.lookup entry.1 = some old ∧ merge old entry.2 = old) :
    mergeEntries entries overlay = entries := by
  induction overlay with
  | nil => exact mergeEntries_nil entries
  | cons entry overlay ih =>
      obtain ⟨key, value⟩ := entry
      obtain ⟨old, hold, hmerged⟩ := hlaid _ List.mem_cons_self
      rw [mergeEntries, hold]
      dsimp only
      rw [hmerged, setEntry_of_lookup hold]
      exact ih fun entry hentry => hlaid entry (List.mem_cons_of_mem _ hentry)

/-- Laying a document over another a second time changes nothing. -/
theorem merge_merge {overlay : Toml} (hproper : Proper overlay) (base : Toml) :
    merge (merge base overlay) overlay = merge base overlay := by
  induction hproper generalizing base with
  | @table overlay hkeys hentries ih =>
      -- Laid over a value that is no table, an entry is itself, so that it may be laid over itself.
      have hplain : (Toml.bool true).isTable = false := rfl
      have hself : ∀ entry ∈ overlay, merge entry.2 entry.2 = entry.2 := by
        intro entry hentry
        have hagain := ih entry hentry (.bool true)
        rwa [merge_of_not_isTable hplain] at hagain
      cases hbase : base.isTable with
      | false =>
          rw [merge_of_not_isTable hbase, merge_table_table]
          refine congrArg Toml.table (mergeEntries_eq_self fun entry hentry => ?_)
          exact ⟨entry.2, hkeys.lookup_of_mem hentry, hself entry hentry⟩
      | true =>
          cases base <;> cases hbase
          next entries =>
          rw [merge_table_table, merge_table_table]
          refine congrArg Toml.table (mergeEntries_eq_self fun entry hentry => ?_)
          have hlookup := lookup_mergeEntries hkeys entries entry.1
          rw [hkeys.lookup_of_mem hentry] at hlookup
          refine ⟨_, hlookup, ?_⟩
          cases entries.lookup entry.1 with
          | none => exact hself entry hentry
          | some old => exact ih entry hentry old
  | _ => rw [merge_value rfl, merge_value rfl]

/-! ## What a merge is -/

theorem Proper.merge {base overlay : Toml} (hbase : Proper base) (hoverlay : Proper overlay) :
    Proper (merge base overlay) := by
  induction hoverlay generalizing base with
  | @table overlay hkeys hentries ih =>
      cases hplain : base.isTable with
      | false =>
          rw [merge_of_not_isTable hplain]
          exact .table hkeys hentries
      | true =>
          cases base <;> cases hplain
          next entries =>
          have hmerged := hbase.distinctKeys.mergeEntries overlay
          rw [merge_table_table]
          refine .table hmerged fun entry hentry => ?_
          have hfound := hmerged.lookup_of_mem hentry
          rw [lookup_mergeEntries hkeys] at hfound
          cases hvalue : overlay.lookup entry.1 with
          | none =>
              rw [hvalue] at hfound
              exact hbase.of_get? hfound
          | some value =>
              have hupper := mem_of_lookup_eq_some hvalue
              rw [hvalue] at hfound
              cases hold : entries.lookup entry.1 with
              | none =>
                  rw [hold] at hfound
                  cases hfound
                  exact hentries _ hupper
              | some old =>
                  rw [hold] at hfound
                  rw [← Option.some.inj hfound]
                  exact ih _ hupper (hbase.of_get? hold)
  | _ =>
      rw [merge_value rfl]
      constructor <;> assumption

/-- What a document says at each path when it comes of laying one over another. -/
structure IsLaid (base overlay result : Toml) : Prop where
  /-- A value that is no table replaces what was there. -/
  value (path : List String) (value : Toml) : overlay.at? path = some value → value.isTable = false →
    result.at? path = some value
  /-- A table adds its keys to those of a table below it, if there is one. -/
  table (path : List String) (upper : Toml) : overlay.at? path = some upper → upper.isTable = true →
    ∃ found, result.at? path = some found ∧ found.isTable = true ∧
      ∀ key, key ∈ found.keys ↔ key ∈ upper.keys ∨
        ∃ lower, base.at? path = some lower ∧ lower.isTable = true ∧ key ∈ lower.keys
  /-- Where nothing is laid into tables, what was there stays, or is missing as before. -/
  kept (path : List String) : overlay.at? path = none → TablesAbove base overlay path →
    result.at? path = base.at? path
  /-- Below a value that is no table nothing is left. -/
  buried (path : List String) (value : Toml) : overlay.at? path = some value → value.isTable = false →
    ∀ key below, result.at? (path ++ key :: below) = none

/-- Where the upper document has a table, so has the result, with the keys of a table below it as well. -/
theorem at?_merge_table {base overlay upper : Toml} (hproper : Proper overlay) {path : List String}
    (hupper : overlay.at? path = some upper) (htable : upper.isTable = true) :
    ∃ found, (merge base overlay).at? path = some found ∧ found.isTable = true ∧
      ∀ key, key ∈ found.keys ↔ key ∈ upper.keys ∨
        ∃ lower, base.at? path = some lower ∧ lower.isTable = true ∧ key ∈ lower.keys := by
  have hresult := at?_merge_of_some base hproper hupper
  cases hlower : base.at? path with
  | none =>
      rw [hlower] at hresult
      exact ⟨upper, hresult, htable, fun key => by simp⟩
  | some lower =>
      rw [hlower] at hresult
      refine ⟨merge lower upper, hresult, isTable_merge lower htable, fun key => ?_⟩
      rw [mem_keys_merge (hproper.of_at? hupper) htable]
      refine or_congr_right ⟨fun hkey => ⟨lower, rfl, isTable_of_mem_keys hkey, hkey⟩, ?_⟩
      rintro ⟨_, ⟨⟩, -, hkey⟩
      exact hkey

theorem isLaid_merge {base overlay : Toml} (hproper : Proper overlay) :
    IsLaid base overlay (merge base overlay) := by
  have hvalue {path : List String} {value : Toml} (hfound : overlay.at? path = some value)
      (hplain : value.isTable = false) : (merge base overlay).at? path = some value := by
    rw [at?_merge_of_some base hproper hfound]
    cases base.at? path with
    | none => rfl
    | some old => exact congrArg some (merge_value hplain old)
  refine ⟨fun path value => hvalue, fun path upper => at?_merge_table hproper,
    fun path => at?_merge_of_none hproper, fun path value hfound hplain key below => ?_⟩
  rw [at?_append, hvalue hfound hplain]
  exact congrArg (Option.bind · (at? below)) (get?_of_not_isTable hplain key)

/-- Laying one document over another does at each path what is meant by it, in tables of any depth. An empty
table changes no table, and laying the same document over the result changes nothing. The keys of each table
stay distinct. -/
theorem merge_exact (base : Toml) {overlay : Toml} (hoverlay : Proper overlay) :
    IsLaid base overlay (merge base overlay) ∧
    (base.isTable = true → merge base (.table []) = base) ∧
    merge (merge base overlay) overlay = merge base overlay ∧
    (Proper base → Proper (merge base overlay)) := by
  refine ⟨isLaid_merge hoverlay, fun htable => ?_, merge_merge hoverlay base,
    fun hbase => hbase.merge hoverlay⟩
  cases base <;> cases htable
  rw [merge_table_table, mergeEntries_nil]

/-- A value over a value, a value over a table, and a key that is not mentioned beside one that is. -/
theorem merge_exact_mixed :
    let base : Toml := .table [
      ("jwt", .table [("secret", .str "old"), ("expiry_hours", .int 24)]),
      ("listener", .table [("tls", .table [("cert_path", .str "c.pem")])])]
    let overlay : Toml := .table [
      ("jwt", .table [("secret", .str "new")]),
      ("listener", .table [("tls", .bool false)])]
    Proper overlay ∧
      (merge base overlay).at? ["jwt", "secret"] = some (.str "new") ∧
      (merge base overlay).at? ["jwt", "expiry_hours"] = some (.int 24) ∧
      (merge base overlay).at? ["listener", "tls", "cert_path"] = none ∧
      merge (merge base overlay) overlay = merge base overlay := by
  intro base overlay
  have hjwt : Proper (.table [("secret", .str "new")]) :=
    .table (by decide) (List.forall_mem_singleton.2 (.str "new"))
  have hlistener : Proper (.table [("tls", .bool false)]) :=
    .table (by decide) (List.forall_mem_singleton.2 (.bool false))
  have hproper : Proper overlay :=
    .table (by decide) (List.forall_mem_cons.2 ⟨hjwt, List.forall_mem_singleton.2 hlistener⟩)
  have habove : TablesAbove base overlay ["jwt", "expiry_hours"] := by
    intro above below value hpath hbelow hfound
    rcases above with _ | ⟨first, _ | ⟨second, above⟩⟩
    · cases hfound
      exact ⟨rfl, base, rfl, rfl⟩
    · obtain ⟨rfl, -⟩ := List.cons.inj hpath
      cases hfound
      exact ⟨rfl, _, rfl, rfl⟩
    · obtain ⟨-, hpath⟩ := List.cons.inj hpath
      obtain ⟨-, hpath⟩ := List.cons.inj hpath
      exact absurd (List.append_eq_nil_iff.1 hpath.symm).2 hbelow
  obtain ⟨hlaid, -, hagain, -⟩ := merge_exact base hproper
  refine ⟨hproper, hlaid.value _ _ rfl rfl, ?_, ?_, hagain⟩
  · exact hlaid.kept _ rfl habove
  · exact hlaid.buried ["listener", "tls"] (.bool false) rfl rfl "cert_path" []

end Gatehouse.Toml
