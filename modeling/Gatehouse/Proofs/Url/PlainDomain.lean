import Gatehouse.Proofs.Text.Encoding
import Gatehouse.Proofs.Unicode.Composition
import Gatehouse.Proofs.Url.Printed

/-!
# Plain domains

A domain in ASCII with no label in Punycode is what it is in small letters. Nothing is mapped, composed or
turned around there, and no label is refused.
-/

namespace Gatehouse.Url

/-- A domain of characters that may stand in one, with no label in Punycode. -/
structure IsPlainDomain (domain : List Char) : Prop where
  chars : ∀ c ∈ domain, isNameChar c = true
  unmarked : ∀ label ∈ splitAt '.' (domain.map Char.toLower), ¬['x', 'n', '-', '-'] <+: label

/-! ## Labels -/

theorem mem_of_mem_splitAt {sep c : Char} {cs part : List Char} (hpart : part ∈ splitAt sep cs)
    (hc : c ∈ part) : c ∈ cs := by
  induction cs generalizing part with
  | nil =>
      rw [List.mem_singleton.1 hpart] at hc
      cases hc
  | cons d cs ih =>
      unfold splitAt at hpart
      split at hpart
      · rcases List.mem_cons.1 hpart with rfl | hpart
        · cases hc
        · exact List.mem_cons_of_mem _ (ih hpart hc)
      · split at hpart
        · rw [List.mem_singleton.1 hpart] at hc
          exact List.mem_cons.2 ((List.mem_cons.1 hc).imp_right fun hnone => by cases hnone)
        · next first others hsome =>
            rcases List.mem_cons.1 hpart with rfl | hpart
            · rcases List.mem_cons.1 hc with rfl | hc
              · exact List.mem_cons_self
              · exact List.mem_cons_of_mem _ (ih (hsome ▸ List.mem_cons_self) hc)
            · exact List.mem_cons_of_mem _ (ih (hsome ▸ List.mem_cons_of_mem _ hpart) hc)

theorem splitAt_ne_nil (sep : Char) (cs : List Char) : splitAt sep cs ≠ [] := by
  cases cs with
  | nil => exact List.cons_ne_nil _ _
  | cons c cs =>
      unfold splitAt
      split
      · exact List.cons_ne_nil _ _
      · split <;> exact List.cons_ne_nil _ _

/-- The parts of a text give it again. -/
theorem intercalate_splitAt (sep : Char) (cs : List Char) : [sep].intercalate (splitAt sep cs) = cs := by
  induction cs with
  | nil => rfl
  | cons c cs ih =>
      have hsome := splitAt_ne_nil sep cs
      unfold splitAt
      split
      · next hsep =>
          obtain ⟨first, others, hparts⟩ := List.exists_cons_of_ne_nil hsome
          rw [hparts] at ih ⊢
          rw [List.intercalate_cons_cons, ih, hsep]
          rfl
      · split
        · next hnone => exact absurd hnone hsome
        · next first others hparts =>
            rw [hparts] at ih
            rw [← ih]
            cases others with
            | nil => rfl
            | cons second others =>
                rw [List.intercalate_cons_cons, List.intercalate_cons_cons]
                rfl

theorem joinersStand_of_lt {before cs : List Char} (hsmall : ∀ c ∈ cs, c.toNat < 0x80) :
    Unicode.joinersStand before cs = true := by
  induction cs generalizing before with
  | nil => rfl
  | cons c cs ih =>
      obtain ⟨hc, hcs⟩ := List.forall_mem_cons.1 hsmall
      rw [Unicode.joinersStand, if_neg (by omega), if_neg (by omega), ih hcs]
      rfl

theorem labelInOrder_of_name {label : List Char} (hname : ∀ c ∈ label, isNameChar c = true) :
    labelInOrder label = true := by
  have hchar : ∀ c ∈ label, c.toNat < 0x80 ∧ isForbidden c = false := fun c hc =>
    isNameChar_iff.1 (hname c hc)
  have hmark : (label.head?.map fun c => Unicode.isMark c.toNat).getD false = false := by
    cases label with
    | nil => rfl
    | cons c label =>
        have hsmall := (hchar c List.mem_cons_self).1
        have hlow : decide (0x300 ≤ c.toNat) = false := decide_eq_false (by omega)
        simp [Unicode.isMark, Unicode.isNonspacing, hlow]
  rw [labelInOrder, hmark, joinersStand_of_lt fun c hc => (hchar c hc).1, Bool.and_true, Bool.not_false,
    Bool.and_true, List.all_eq_true]
  intro c hc
  obtain ⟨hsmall, hpermitted⟩ := hchar c hc
  rw [hpermitted, Unicode.isAllowed, decide_eq_true hsmall]
  rfl

theorem Label.ofPrepared?_of_name {label : List Char} (hname : ∀ c ∈ label, isNameChar c = true)
    (hunmarked : ¬['x', 'n', '-', '-'] <+: label) : ofPrepared? label = some ⟨label, label⟩ := by
  have hascii : label.all (fun c => c.toNat < 0x80) = true :=
    List.all_eq_true.2 fun c hc => decide_eq_true (isNameChar_iff.1 (hname c hc)).1
  unfold ofPrepared?
  split
  · exact absurd (List.prefix_append ['x', 'n', '-', '-'] _) hunmarked
  · rw [if_pos (labelInOrder_of_name hname), if_pos hascii]

/-! ## Domains -/

theorem isReversed_direction_of_lt {c : Char} (hc : c.toNat < 0x80) :
    (Unicode.direction c).isReversed = false :=
  Text.of_forall_ofNat hc (by decide +kernel)

theorem prepare_of_lt {domain : List Char} (hsmall : ∀ c ∈ domain, c.toNat < 0x80) :
    prepare domain = domain.map Char.toLower := by
  have hmapped : domain.flatMap Unicode.mapChar = domain.map Char.toLower := by
    induction domain with
    | nil => rfl
    | cons c domain ih =>
        obtain ⟨hc, hdomain⟩ := List.forall_mem_cons.1 hsmall
        rw [List.flatMap_cons, ih hdomain, Unicode.mapChar, if_pos hc]
        rfl
  have hlower : ∀ c : Char, c.toNat < 0x80 → c.toLower.toNat < 0xC0 := fun c hc =>
    Text.of_forall_ofNat hc (by decide)
  rw [prepare, hmapped]
  refine Unicode.normalize_of_lt fun c hc => ?_
  obtain ⟨source, hsource, rfl⟩ := List.mem_map.1 hc
  exact hlower source (hsmall source hsource)

/-- A plain domain is its own form in ASCII, up to capitals. -/
theorem domainToAscii?_of_isPlainDomain {domain : List Char} (hplain : IsPlainDomain domain) :
    domainToAscii? domain = some (domain.map Char.toLower) := by
  have hlower : ∀ c, isNameChar c = true → isNameChar c.toLower = true := fun c hc =>
    Text.of_forall_ofNat (P := fun c => isNameChar c = true → isNameChar c.toLower = true)
      (isNameChar_iff.1 hc).1 (by decide) hc
  have hname : ∀ label ∈ splitAt '.' (domain.map Char.toLower), ∀ c ∈ label,
      isNameChar c = true := by
    intro label hlabel c hc
    obtain ⟨source, hsource, rfl⟩ := List.mem_map.1 (mem_of_mem_splitAt hlabel hc)
    exact hlower source (hplain.chars source hsource)
  have hlabels := mapM_eq_some_map fun label hlabel =>
    Label.ofPrepared?_of_name (hname label hlabel) (hplain.unmarked label hlabel)
  have htexts (labels : List (List Char)) :
      (labels.map fun label => Label.mk label label).map Label.text = labels ∧
        (labels.map fun label => Label.mk label label).map Label.written = labels := by
    rw [List.map_map, List.map_map]
    exact ⟨List.map_id labels, List.map_id labels⟩
  have hdirections : Unicode.keepDirections (splitAt '.' (domain.map Char.toLower)) = true := by
    rw [Unicode.keepDirections, Bool.or_eq_true, Bool.not_eq_true']
    refine .inl (List.any_eq_false.2 fun label hlabel hreversed => ?_)
    obtain ⟨c, hc, hreversed⟩ := List.any_eq_true.1 hreversed
    rw [isReversed_direction_of_lt (isNameChar_iff.1 (hname label hlabel c hc)).1] at hreversed
    cases hreversed
  rw [domainToAscii?, prepare_of_lt fun c hc => (isNameChar_iff.1 (hplain.chars c hc)).1, hlabels]
  change (if _ then _ else _) = _
  rw [(htexts _).1, (htexts _).2, if_pos hdirections, intercalate_splitAt]
  rfl

example : domainToAscii? "MÜNCHEN.de".toList = some "xn--mnchen-3ya.de".toList := by decide +kernel

end Gatehouse.Url
