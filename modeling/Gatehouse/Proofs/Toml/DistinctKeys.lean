import Gatehouse.Proofs.Toml.Entries
import Gatehouse.Toml.Document

/-!
# No key twice

No table of a document that was read has a key twice, however the table came to be: with a header of its
own, below one, by dotted keys, in braces, or as an element of an array. Every step of the reading keeps
this of the tables that are finished so far, the open one included.
-/

namespace Gatehouse.Toml

/-- No table of a value has a key twice. -/
inductive Proper : Toml → Prop
  | str (text : String) : Proper (.str text)
  | int (value : Int) : Proper (.int value)
  | float (value : Number.Binary64) : Proper (.float value)
  | bool (value : Bool) : Proper (.bool value)
  | datetime (text : String) : Proper (.datetime text)
  | arr {items : List Toml} : (∀ item ∈ items, Proper item) → Proper (.arr items)
  | table {entries : List (String × Toml)} : DistinctKeys entries →
      (∀ entry ∈ entries, Proper entry.2) → Proper (.table entries)

theorem Proper.distinctKeys {entries : List (String × Toml)} (hproper : Proper (.table entries)) :
    DistinctKeys entries := by
  cases hproper with
  | table hkeys _ => exact hkeys

theorem Proper.of_get? {key : String} {value inner : Toml} (hproper : Proper value)
    (hfound : value.get? key = some inner) : Proper inner := by
  cases hproper with
  | table hkeys hentries => exact hentries _ (mem_of_lookup_eq_some hfound)
  | _ => cases hfound

theorem Proper.of_at? {path : List String} {document value : Toml} (hproper : Proper document)
    (hfound : document.at? path = some value) : Proper value := by
  induction path generalizing document with
  | nil =>
      cases hfound
      exact hproper
  | cons key path ih =>
      obtain ⟨inner, hinner, hrest⟩ := Option.bind_eq_some_iff.1 hfound
      exact ih (hproper.of_get? hinner) hrest

/-- No table of an item has a key twice. -/
inductive Item.Proper : Item → Prop
  | value {value : Toml} : Toml.Proper value → Item.Proper (.value value)
  | table {implied dotted : Bool} {entries : Entries} : DistinctKeys entries →
      (∀ entry ∈ entries, Item.Proper entry.2) → Item.Proper (.table implied dotted entries)
  | tables {elements : List Entries} : (∀ entries ∈ elements, DistinctKeys entries) →
      (∀ entries ∈ elements, ∀ entry ∈ entries, Item.Proper entry.2) → Item.Proper (.tables elements)

/-- Entries without a key twice, in themselves and in all tables below. -/
structure ProperEntries (entries : Entries) : Prop where
  keys : DistinctKeys entries
  items : ∀ entry ∈ entries, entry.2.Proper

/-! ## Finished values -/

theorem Item.entriesToToml_eq_map (entries : Entries) :
    Item.entriesToToml entries = entries.map fun entry => (entry.1, entry.2.toToml) := by
  induction entries with
  | nil => rw [Item.entriesToToml, List.map_nil]
  | cons entry entries ih => rw [Item.entriesToToml, ih, List.map_cons]

theorem Item.mem_elementsToToml {elements : List Entries} {later : List Toml} {value : Toml}
    (hvalue : value ∈ Item.elementsToToml elements later) :
    (∃ entries ∈ elements, value = .table (Item.entriesToToml entries)) ∨ value ∈ later := by
  induction elements generalizing later with
  | nil =>
      rw [Item.elementsToToml] at hvalue
      exact .inr hvalue
  | cons entries elements ih =>
      rw [Item.elementsToToml] at hvalue
      rcases ih hvalue with ⟨found, hfound, heq⟩ | hlater
      · exact .inl ⟨found, List.mem_cons_of_mem _ hfound, heq⟩
      · rcases List.mem_cons.1 hlater with heq | hlater
        · exact .inl ⟨entries, List.mem_cons_self, heq⟩
        · exact .inr hlater

theorem proper_table_entriesToToml {entries : Entries} (hkeys : DistinctKeys entries)
    (hitems : ∀ entry ∈ entries, Proper entry.2.toToml) :
    Proper (.table (Item.entriesToToml entries)) := by
  rw [Item.entriesToToml_eq_map]
  refine .table ?_ fun entry hentry => ?_
  · rw [DistinctKeys, List.map_map]
    exact hkeys
  · obtain ⟨source, hsource, rfl⟩ := List.mem_map.1 hentry
    exact hitems source hsource

theorem Item.Proper.toToml {item : Item} (hitem : item.Proper) : Toml.Proper item.toToml := by
  induction hitem with
  | value hvalue =>
      rw [Item.toToml]
      exact hvalue
  | table hkeys _ ih =>
      rw [Item.toToml]
      exact proper_table_entriesToToml hkeys ih
  | tables hkeys _ ih =>
      rw [Item.toToml]
      refine .arr fun value hvalue => ?_
      rcases Item.mem_elementsToToml hvalue with ⟨entries, hentries, rfl⟩ | hnone
      · exact proper_table_entriesToToml (hkeys entries hentries) (ih entries hentries)
      · exact absurd hnone List.not_mem_nil

namespace ProperEntries

variable {entries : Entries} {key : String}

theorem nil : ProperEntries [] := ⟨distinctKeys_nil, fun _ h => absurd h List.not_mem_nil⟩

theorem toToml (hentries : ProperEntries entries) :
    Proper (.table (Item.entriesToToml entries)) :=
  proper_table_entriesToToml hentries.keys fun entry hentry => (hentries.items entry hentry).toToml

theorem table (hentries : ProperEntries entries) (implied dotted : Bool) :
    (Item.table implied dotted entries).Proper :=
  .table hentries.keys hentries.items

theorem of_lookup {item : Item} (hentries : ProperEntries entries)
    (hfound : entries.lookup key = some item) : item.Proper :=
  hentries.items _ (mem_of_lookup_eq_some hfound)

theorem append {item : Item} (hentries : ProperEntries entries) (habsent : entries.lookup key = none)
    (hitem : item.Proper) : ProperEntries (entries ++ [(key, item)]) := by
  refine ⟨hentries.keys.append habsent item, fun entry hentry => ?_⟩
  rcases List.mem_append.1 hentry with hentry | hnew
  · exact hentries.items entry hentry
  · rw [List.mem_singleton.1 hnew]
    exact hitem

theorem setEntry {item : Item} (hentries : ProperEntries entries) (hitem : item.Proper) :
    ProperEntries (setEntry key item entries) := by
  refine ⟨hentries.keys.setEntry key item, fun entry hentry => ?_⟩
  rcases mem_setEntry hentry with rfl | hentry
  · exact hitem
  · exact hentries.items entry hentry

theorem filter (hentries : ProperEntries entries) (p : String × Item → Bool) :
    ProperEntries (entries.filter p) :=
  ⟨hentries.keys.filter p, fun entry hentry => hentries.items entry (List.mem_of_mem_filter hentry)⟩

end ProperEntries

/-- The entries of a table. -/
theorem Item.Proper.entries {implied dotted : Bool} {entries : Entries}
    (hitem : (Item.table implied dotted entries).Proper) : ProperEntries entries := by
  cases hitem with
  | table hkeys hitems => exact ⟨hkeys, hitems⟩

/-- The entries of an array's tables. -/
theorem Item.Proper.elements {elements : List Entries} (hitem : (Item.tables elements).Proper) :
    ∀ entries ∈ elements, ProperEntries entries := by
  cases hitem with
  | tables hkeys hitems =>
      exact fun entries hentries => ⟨hkeys entries hentries, hitems entries hentries⟩

theorem Item.proper_tables {elements : List Entries}
    (helements : ∀ entries ∈ elements, ProperEntries entries) : (Item.tables elements).Proper :=
  .tables (fun entries hentries => (helements entries hentries).keys)
    fun entries hentries => (helements entries hentries).items

/-! ## Changes -/

/-- A change keeps keys apart. -/
def Preserves (change : Bool → Entries → Option Entries) : Prop :=
  ∀ isDotted entries changed, ProperEntries entries → change isDotted entries = some changed →
    ProperEntries changed

/-- A change below a path keeps keys apart when it does so where it works. -/
theorem ProperEntries.changeAt {dotted : Bool} {change : Bool → Entries → Option Entries}
    (hchange : Preserves change) {path : List String} {isDotted : Bool} {entries changed : Entries}
    (hentries : ProperEntries entries)
    (hchanged : changeAt dotted change path isDotted entries = some changed) :
    ProperEntries changed := by
  induction path generalizing isDotted entries changed with
  | nil =>
      rw [Toml.changeAt] at hchanged
      exact hchange isDotted entries changed hentries hchanged
  | cons key path ih =>
      rw [Toml.changeAt] at hchanged
      split at hchanged
      · next habsent =>
          obtain ⟨inner, hinner, rfl⟩ := Option.map_eq_some_iff.1 hchanged
          exact hentries.append habsent ((ih .nil hinner).table true dotted)
      · cases hchanged
      · cases hchanged
      · next last earlier hfound =>
          obtain ⟨inner, hinner, rfl⟩ := Option.map_eq_some_iff.1 hchanged
          have helements := (hentries.of_lookup hfound).elements
          refine hentries.setEntry (Item.proper_tables fun element helement => ?_)
          rcases List.mem_cons.1 helement with rfl | hearlier
          · exact ih (helements last List.mem_cons_self) hinner
          · exact helements element (List.mem_cons_of_mem _ hearlier)
      · next implied wasDotted inner hfound =>
          split at hchanged
          · cases hchanged
          · obtain ⟨inner', hinner, rfl⟩ := Option.map_eq_some_iff.1 hchanged
            exact hentries.setEntry ((ih (hentries.of_lookup hfound).entries hinner).table _ _)

theorem ProperEntries.addPair {entries changed : Entries} {key : List String} {value : Toml}
    (hentries : ProperEntries entries) (hvalue : Proper value)
    (hadded : addPair entries key value = some changed) : ProperEntries changed := by
  unfold Toml.addPair at hadded
  dsimp only at hadded
  split at hadded
  · cases hadded
  · next name hname =>
      refine hentries.changeAt (fun isDotted inner changed hinner hchanged => ?_) hadded
      split at hchanged
      · cases hchanged
      · next hfree =>
          cases hchanged
          have habsent : inner.lookup name = none := by
            rw [← Option.not_isSome_iff_eq_none]
            exact fun hfound => hfree (.inr hfound)
          exact hinner.append habsent (.value hvalue)

/-! ## Values -/

/-- A value that holds no other. -/
def isScalar : Toml → Bool
  | .arr _ => false
  | .table _ => false
  | _ => true

theorem proper_of_isScalar {value : Toml} (hscalar : value.isScalar = true) : Proper value := by
  cases value with
  | str text => exact .str text
  | int n => exact .int n
  | float x => exact .float x
  | bool b => exact .bool b
  | datetime text => exact .datetime text
  | arr items => cases hscalar
  | table entries => cases hscalar

theorem Scalar.isScalar_integer {cs left : List Char} {value : Toml}
    (hread : Scalar.integer cs = some (value, left)) : value.isScalar = true := by
  have hbased : ∀ (base : Nat) (isDigit : Char → Bool) (rest : List Char),
      ((Scalar.digitRun isDigit rest).bind fun run =>
        let n := run.1.foldl (fun n d => base * n + (Scalar.hexValue? d).getD 0) 0
        if n < UInt64.size / 2 then some (Toml.int n, run.2) else none) = some (value, left) →
      value.isScalar = true := by
    intro base isDigit rest hread
    obtain ⟨run, -, hread⟩ := Option.bind_eq_some_iff.1 hread
    obtain ⟨-, hsame⟩ := Option.ite_none_right_eq_some.1 hread
    cases hsame
    rfl
  unfold Scalar.integer at hread
  dsimp only at hread
  split at hread
  · exact hbased _ _ _ hread
  · exact hbased _ _ _ hread
  · exact hbased _ _ _ hread
  · obtain ⟨run, -, hread⟩ := Option.bind_eq_some_iff.1 hread
    obtain ⟨-, hsame⟩ := Option.ite_none_right_eq_some.1 hread
    cases hsame
    rfl

theorem Scalar.isScalar_float {cs left : List Char} {value : Toml}
    (hread : Scalar.float cs = some (value, left)) : value.isScalar = true := by
  unfold Scalar.float at hread
  dsimp only at hread
  split at hread
  · cases hread
    rfl
  · cases hread
    rfl
  · obtain ⟨whole, -, hread⟩ := Option.bind_eq_some_iff.1 hread
    obtain ⟨parts, -, hread⟩ := Option.bind_eq_some_iff.1 hread
    obtain ⟨-, hsame⟩ := Option.ite_none_right_eq_some.1 hread
    cases hsame
    rfl

theorem Scalar.isScalar_datetime {cs left : List Char} {value : Toml}
    (hread : Scalar.datetime cs = some (value, left)) : value.isScalar = true := by
  unfold Scalar.datetime at hread
  split at hread
  · obtain ⟨timed, -, hsame⟩ := Option.map_eq_some_iff.1 hread
    cases hsame
    rfl
  · dsimp only at hread
    split at hread
    · cases hread
      rfl
    · split at hread
      · cases hread
        rfl
      · cases hread
        rfl

theorem Scalar.isScalar_scalar {cs left : List Char} {value : Toml}
    (hread : Scalar.scalar cs = some (value, left)) : value.isScalar = true := by
  unfold Scalar.scalar at hread
  split at hread
  · cases hread
    rfl
  · cases hread
    rfl
  · split at hread
    · obtain ⟨text, -, hsame⟩ := Option.map_eq_some_iff.1 hread
      cases hsame
      rfl
    · rcases Option.or_eq_some_iff.1 hread with hread | ⟨-, hread⟩
      · rcases Option.or_eq_some_iff.1 hread with hread | ⟨-, hread⟩
        · exact Scalar.isScalar_datetime hread
        · exact Scalar.isScalar_float hread
      · exact Scalar.isScalar_integer hread
  · cases hread

/-- The values, items and pairs that are read in some number of steps have no key twice. -/
structure ReadsProper (fuel : Nat) : Prop where
  value : ∀ {depth : Nat} {cs left : List Char} {v : Toml},
    Toml.value depth fuel cs = some (v, left) → Proper v
  items : ∀ {depth : Nat} {cs left : List Char} {items : List Toml},
    arrayItems depth fuel cs = some (items, left) → ∀ item ∈ items, Proper item
  pairs : ∀ {depth : Nat} {entries result : Entries} {cs left : List Char},
    ProperEntries entries → inlinePairs depth fuel entries cs = some (result, left) →
      ProperEntries result

theorem ReadsProper.value_succ {fuel : Nat} (hfuel : ReadsProper fuel) {depth : Nat}
    {cs left : List Char} {v : Toml} (hread : Toml.value depth (fuel + 1) cs = some (v, left)) :
    Proper v := by
  unfold Toml.value at hread
  split at hread
  · next rest =>
      obtain ⟨-, hread⟩ := Option.ite_none_right_eq_some.1 hread
      split at hread
      · cases hread
        exact .arr fun item hitem => absurd hitem List.not_mem_nil
      · obtain ⟨⟨items, after⟩, hitems, hsame⟩ := Option.map_eq_some_iff.1 hread
        cases hsame
        exact .arr (hfuel.items hitems)
  · next rest =>
      obtain ⟨-, hread⟩ := Option.ite_none_right_eq_some.1 hread
      split at hread
      · cases hread
        exact .table distinctKeys_nil fun entry hentry => absurd hentry List.not_mem_nil
      · obtain ⟨⟨entries, after⟩, hpairs, hsame⟩ := Option.map_eq_some_iff.1 hread
        cases hsame
        exact (hfuel.pairs .nil hpairs).toToml
  · exact proper_of_isScalar (Scalar.isScalar_scalar hread)

theorem ReadsProper.items_succ {fuel : Nat} (hfuel : ReadsProper fuel) {depth : Nat}
    {cs left : List Char} {items : List Toml}
    (hread : arrayItems depth (fuel + 1) cs = some (items, left)) : ∀ item ∈ items, Proper item := by
  rw [arrayItems] at hread
  split at hread
  · cases hread
  · next first rest hfirst =>
      have hproper := hfuel.value hfirst
      split at hread
      · cases hread
        exact List.forall_mem_singleton.2 hproper
      · split at hread
        · cases hread
          exact List.forall_mem_singleton.2 hproper
        · obtain ⟨⟨later, after⟩, hlater, hsame⟩ := Option.map_eq_some_iff.1 hread
          cases hsame
          exact List.forall_mem_cons.2 ⟨hproper, hfuel.items hlater⟩
      · cases hread

theorem ReadsProper.pairs_succ {fuel : Nat} (hfuel : ReadsProper fuel) {depth : Nat}
    {entries result : Entries} {cs left : List Char} (hentries : ProperEntries entries)
    (hread : inlinePairs depth (fuel + 1) entries cs = some (result, left)) :
    ProperEntries result := by
  rw [inlinePairs] at hread
  split at hread
  · split at hread
    · cases hread
    · next v rest hv =>
        split at hread
        · cases hread
        · next more hmore =>
            have hproper := hentries.addPair (hfuel.value hv) hmore
            split at hread
            · cases hread
              exact hproper
            · exact hfuel.pairs hproper hread
            · cases hread
  · cases hread

theorem readsProper (fuel : Nat) : ReadsProper fuel := by
  induction fuel with
  | zero =>
      refine ⟨fun hread => ?_, fun hread => ?_, fun _ hread => ?_⟩
      · rw [Toml.value] at hread
        cases hread
      · rw [arrayItems] at hread
        cases hread
      · rw [inlinePairs] at hread
        cases hread
  | succ fuel ih => exact ⟨ih.value_succ, ih.items_succ, ih.pairs_succ⟩

/-! ## Documents -/

namespace Draft

/-- No table that is finished or open has a key twice. -/
structure Proper (draft : Draft) : Prop where
  root : ProperEntries draft.root
  current : ProperEntries draft.current

theorem proper_empty : empty.Proper := ⟨.nil, .nil⟩

theorem Proper.close {draft : Draft} {entries : Entries} (hdraft : draft.Proper)
    (hclosed : draft.close = some entries) : ProperEntries entries := by
  unfold Draft.close at hclosed
  split at hclosed
  · cases hclosed
    exact hdraft.current
  · next name hname =>
      refine hdraft.root.changeAt (fun isDotted inner changed hinner hchanged => ?_) hclosed
      split at hchanged
      · next elements hfound =>
          obtain ⟨-, hsame⟩ := Option.ite_none_right_eq_some.1 hchanged
          cases hsame
          refine hinner.setEntry (Item.proper_tables fun element helement => ?_)
          rcases List.mem_cons.1 helement with rfl | hearlier
          · exact hdraft.current
          · exact (hinner.of_lookup hfound).elements element hearlier
      · obtain ⟨-, hsame⟩ := Option.ite_none_left_eq_some.1 hchanged
        cases hsame
        exact hinner.setEntry (hdraft.current.table false false)
      · cases hchanged
      · next habsent =>
          split at hchanged
          · cases hchanged
            refine hinner.append habsent (Item.proper_tables ?_)
            exact List.forall_mem_singleton.2 hdraft.current
          · cases hchanged
            exact hinner.append habsent (hdraft.current.table false false)

theorem proper_lookupAt {path : List String} {entries found : Entries}
    (hentries : ProperEntries entries) (hfound : openTable.lookupAt path entries = some found) :
    ProperEntries found := by
  induction path generalizing entries with
  | nil =>
      cases hfound
      exact hentries
  | cons key path ih =>
      rw [openTable.lookupAt] at hfound
      split at hfound
      · next implied dotted inner hinner => exact ih (hentries.of_lookup hinner).entries hfound
      · next last earlier hlast =>
          exact ih ((hentries.of_lookup hlast).elements last List.mem_cons_self) hfound
      · cases hfound

theorem proper_implied? {name : String} {entries found : Entries} (hentries : ProperEntries entries)
    (hfound : implied? name entries = some found) : ProperEntries found := by
  unfold implied? at hfound
  split at hfound
  · cases hfound
    exact .nil
  · next inner hinner =>
      cases hfound
      exact (hentries.of_lookup hinner).entries
  · cases hfound

theorem Proper.openTable {draft opened : Draft} {path : List String} (hdraft : draft.Proper)
    (hopened : draft.openTable path = some opened) : opened.Proper := by
  obtain ⟨root, hroot, hopened⟩ := Option.bind_eq_some_iff.1 hopened
  obtain ⟨name, -, hopened⟩ := Option.bind_eq_some_iff.1 hopened
  obtain ⟨made, hmade, hopened⟩ := Option.bind_eq_some_iff.1 hopened
  obtain ⟨found, hfound, hopened⟩ := Option.bind_eq_some_iff.1 hopened
  obtain ⟨current, hcurrent, hopened⟩ := Option.bind_eq_some_iff.1 hopened
  obtain ⟨left, hleft, hopened⟩ := Option.bind_eq_some_iff.1 hopened
  cases hopened
  have hmade : ProperEntries made := by
    refine (hdraft.close hroot).changeAt (fun isDotted inner changed hinner hchanged => ?_) hmade
    cases hchanged
    exact hinner
  refine ⟨hmade.changeAt (fun isDotted inner changed hinner hchanged => ?_) hleft,
    proper_implied? (proper_lookupAt hmade hfound) hcurrent⟩
  cases hchanged
  exact hinner.filter _

theorem Proper.openElement {draft opened : Draft} {path : List String} (hdraft : draft.Proper)
    (hopened : draft.openElement path = some opened) : opened.Proper := by
  obtain ⟨root, hroot, hopened⟩ := Option.bind_eq_some_iff.1 hopened
  obtain ⟨name, -, hopened⟩ := Option.bind_eq_some_iff.1 hopened
  obtain ⟨made, hmade, hopened⟩ := Option.bind_eq_some_iff.1 hopened
  cases hopened
  refine ⟨(hdraft.close hroot).changeAt (fun isDotted inner changed hinner hchanged => ?_) hmade, .nil⟩
  split at hchanged
  · next habsent =>
      cases hchanged
      exact hinner.append habsent (Item.proper_tables fun element hnone => absurd hnone List.not_mem_nil)
  · cases hchanged
    exact hinner
  · cases hchanged

end Draft

/-- One line keeps keys apart. -/
theorem Draft.Proper.line {draft next : Draft} {cs left : List Char} (hdraft : draft.Proper)
    (hread : line draft cs = some (next, left)) : next.Proper := by
  unfold Toml.line at hread
  split at hread
  · split at hread
    · obtain ⟨opened, hopened, hread⟩ := Option.bind_eq_some_iff.1 hread
      obtain ⟨rest, -, hread⟩ := Option.bind_eq_some_iff.1 hread
      cases hread
      exact hdraft.openElement hopened
    · cases hread
  · split at hread
    · obtain ⟨opened, hopened, hread⟩ := Option.bind_eq_some_iff.1 hread
      obtain ⟨rest, -, hread⟩ := Option.bind_eq_some_iff.1 hread
      cases hread
      exact hdraft.openTable hopened
    · cases hread
  · split at hread
    · cases hread
      exact hdraft
    · split at hread
      · obtain ⟨⟨v, after⟩, hv, hread⟩ := Option.bind_eq_some_iff.1 hread
        obtain ⟨current, hcurrent, hread⟩ := Option.bind_eq_some_iff.1 hread
        obtain ⟨rest, -, hread⟩ := Option.bind_eq_some_iff.1 hread
        cases hread
        exact ⟨hdraft.root, hdraft.current.addPair ((readsProper _).value hv) hcurrent⟩
      · cases hread

/-- So do all lines. -/
theorem Draft.Proper.lines {fuel : Nat} {draft last : Draft} {cs : List Char} (hdraft : draft.Proper)
    (hread : lines fuel draft cs = some last) : last.Proper := by
  induction fuel generalizing draft cs with
  | zero => cases hread
  | succ fuel ih =>
      rw [Toml.lines] at hread
      split at hread
      · cases hread
        exact hdraft
      · split at hread
        · cases hread
        · next next left hline => exact ih (hdraft.line hline) hread

/-- A document that was read is a table, and no table of it has a key twice. -/
theorem proper_of_parse? {text : String} {document : Toml} (hread : parse? text = some document) :
    document.isTable = true ∧ Proper document := by
  unfold parse? at hread
  dsimp only at hread
  split at hread
  · cases hread
  · next draft hdraft =>
      obtain ⟨entries, hclosed, rfl⟩ := Option.map_eq_some_iff.1 hread
      exact ⟨rfl, ((Draft.proper_empty.lines hdraft).close hclosed).toToml⟩

end Gatehouse.Toml
