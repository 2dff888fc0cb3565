import Gatehouse.Http.Headers
import Gatehouse.Http.RequestTarget
import Gatehouse.Proofs.Text.Encoding
import Mathlib.Data.List.TakeWhile

/-!
# Plain texts

Visible ASCII, the space and the tab: the texts that a field value reads as, and that a field may
hold. Scheme and authority of a request target are plain as well.
-/

namespace Gatehouse.Http

/-- Visible ASCII, the space and the tab, as characters. -/
def isPlainChar (c : Char) : Bool := (0x20 ≤ c.toNat && c.toNat < 0x7F) || c = '\t'

/-- Every character of a text is plain. -/
def IsPlain (cs : List Char) : Prop := ∀ c ∈ cs, isPlainChar c = true

instance (cs : List Char) : Decidable (IsPlain cs) :=
  decidable_of_iff (cs.all isPlainChar = true) List.all_eq_true

theorem isPlain_append {cs ds : List Char} : IsPlain (cs ++ ds) ↔ IsPlain cs ∧ IsPlain ds := by
  simp only [IsPlain, List.mem_append, or_imp, forall_and]

theorem IsPlain.of_subset {cs ds : List Char} (hcs : IsPlain cs) (hsub : ds ⊆ cs) : IsPlain ds :=
  fun c hc => hcs c (hsub hc)

theorem isPlainChar_of_toNat {c : Char} (hlow : 0x20 ≤ c.toNat) (hhigh : c.toNat < 0x7F) :
    isPlainChar c = true := by
  simp [isPlainChar, hlow, hhigh]

theorem toNat_lt_of_isPlainChar {c : Char} (hc : isPlainChar c = true) : c.toNat < 0x7F := by
  simp only [isPlainChar, Bool.or_eq_true, Bool.and_eq_true, decide_eq_true_eq] at hc
  rcases hc with hc | rfl
  · exact hc.2
  · decide

theorem isPlainChar_of_isAlphanum {c : Char} (hc : c.isAlphanum = true) : isPlainChar c = true := by
  have hranges : c.isAlphanum =
      ((decide (65 ≤ c.toNat ∧ c.toNat ≤ 90) || (decide (97 ≤ c.toNat) && decide (c.toNat ≤ 122))) ||
        (decide (48 ≤ c.toNat) && decide (c.toNat ≤ 57))) := rfl
  simp only [hranges, Bool.or_eq_true, Bool.and_eq_true, decide_eq_true_eq] at hc
  refine isPlainChar_of_toNat ?_ ?_
  · omega
  · omega

theorem isPlainChar_of_isTokenChar {c : Char} (hc : isTokenChar c = true) : isPlainChar c = true := by
  have hmarks : IsPlain ['!', '#', '$', '%', '&', '\'', '*', '+', '-', '.', '^', '_', '\x60', '|', '~'] := by
    decide
  simp only [isTokenChar, Bool.or_eq_true, decide_eq_true_eq, or_assoc] at hc
  rcases hc with hletter | hmark
  · exact isPlainChar_of_isAlphanum hletter
  · exact hmarks c (by simpa using hmark)

/-! ## Field values -/

theorem isFieldByte_of_isPlainByte {b : UInt8} (hb : FieldValue.isPlainByte b = true) :
    isFieldByte b = true := by
  simp only [FieldValue.isPlainByte, isFieldByte, Bool.or_eq_true, Bool.and_eq_true, decide_eq_true_eq]
    at hb ⊢
  refine hb.imp_left fun ⟨hlow, hhigh⟩ => ⟨hlow, ?_⟩
  rintro rfl
  exact absurd hhigh (by decide)

/-- A plain character is one plain byte. -/
theorem isPlainByte_of_isPlainChar {c : Char} (hc : isPlainChar c = true) {b : UInt8}
    (hb : b ∈ String.utf8EncodeChar c) : FieldValue.isPlainByte b = true := by
  have hsmall := toNat_lt_of_isPlainChar hc
  have hall : isPlainChar c = true → (String.utf8EncodeChar c).all FieldValue.isPlainByte = true :=
    Text.of_forall_ofNat hsmall (by decide)
  exact List.all_eq_true.1 (hall hc) b hb

/-- A field may hold a plain text, as a value of plain bytes. -/
theorem exists_ofString?_of_isPlain {s : String} (hs : IsPlain s.toList) :
    ∃ value, FieldValue.ofString? s = some value ∧ value.bytes = Text.utf8 s ∧
      value.bytes.all FieldValue.isPlainByte = true := by
  have hplain : ∀ b ∈ Text.utf8 s, FieldValue.isPlainByte b = true := by
    rw [Text.utf8_eq_flatMap]
    intro b hb
    obtain ⟨c, hc, hb⟩ := List.mem_flatMap.1 hb
    exact isPlainByte_of_isPlainChar (hs c hc) hb
  have hall : (Text.utf8 s).all isFieldByte = true :=
    List.all_eq_true.2 fun b hb => isFieldByte_of_isPlainByte (hplain b hb)
  exact ⟨_, dif_pos hall, rfl, List.all_eq_true.2 hplain⟩

/-- A value reads as a plain text only. -/
theorem isPlain_of_text? {value : FieldValue} {s : String} (hread : value.text? = some s) :
    IsPlain s.toList := by
  have hchars : ∀ n < 256, FieldValue.isPlainByte (UInt8.ofNat n) = true →
      isPlainChar (Char.ofNat n) = true := by decide +kernel
  unfold FieldValue.text? at hread
  split at hread
  · next hplain =>
      cases hread
      intro c hc
      rw [Text.ofAscii, String.toList_ofList] at hc
      obtain ⟨b, hb, rfl⟩ := List.mem_map.1 hc
      refine hchars b.toNat b.toNat_lt ?_
      rw [UInt8.ofNat_toNat]
      exact List.all_eq_true.1 hplain b hb
  · cases hread

/-- A value of plain bytes reads as the text of which they are the bytes; no other value is read. -/
theorem text?_eq_some_iff {value : FieldValue} {s : String} :
    value.text? = some s ↔ value.bytes.all FieldValue.isPlainByte = true ∧ value.bytes = Text.utf8 s := by
  have hread (hplain : value.bytes.all FieldValue.isPlainByte = true) :
      Text.utf8 (Text.ofAscii value.bytes) = value.bytes := by
    refine Text.utf8_ofAscii fun b hb => ?_
    have hsmall : ∀ n < 256, FieldValue.isPlainByte (UInt8.ofNat n) = true → n < 0x80 := by decide +kernel
    refine hsmall b.toNat b.toNat_lt ?_
    rw [UInt8.ofNat_toNat]
    exact List.all_eq_true.1 hplain b hb
  unfold FieldValue.text?
  constructor
  · intro htext
    split at htext
    · next hplain =>
        cases htext
        exact ⟨hplain, (hread hplain).symm⟩
    · cases htext
  · rintro ⟨hplain, hbytes⟩
    rw [if_pos hplain, Text.utf8_injective ((hread hplain).trans hbytes)]

/-- The blanks among plain characters are the space and the tab. -/
theorem isBlank_iff_of_isPlainChar {c : Char} (hc : isPlainChar c = true) :
    Text.isBlank c = true ↔ c = ' ' ∨ c = '\t' := by
  have hsmall := toNat_lt_of_isPlainChar hc
  have hall : isPlainChar c = true → (Text.isBlank c = true ↔ c = ' ' ∨ c = '\t') :=
    Text.of_forall_ofNat hsmall (by decide)
  exact hall hc

theorem isBlank_of_isTokenChar {c : Char} (hc : isTokenChar c = true) : Text.isBlank c = false := by
  rw [← Bool.not_eq_true, isBlank_iff_of_isPlainChar (isPlainChar_of_isTokenChar hc)]
  rintro (rfl | rfl)
  · exact absurd hc (by decide)
  · exact absurd hc (by decide)

/-! ## Request targets -/

namespace RequestTarget

theorem isPlainChar_of_isSchemeChar {c : Char} (hc : isSchemeChar c = true) : isPlainChar c = true := by
  simp only [isSchemeChar, Bool.or_eq_true, decide_eq_true_eq] at hc
  rcases hc with (((hc | rfl) | rfl) | rfl) | rfl
  · exact isPlainChar_of_isAlphanum hc
  all_goals decide

theorem isPlainChar_of_isAuthorityChar {c : Char} (hc : isAuthorityChar c = true) :
    isPlainChar c = true := by
  have hmarks : IsPlain ['!', '$', '&', '\'', '(', ')', '*', '+', ',', '-', '.', ':', ';', '=', '@',
      '[', ']', '_', '~'] := by decide
  simp only [isAuthorityChar, Bool.or_eq_true, decide_eq_true_eq] at hc
  rcases hc with hletter | hmark
  · exact isPlainChar_of_isAlphanum hletter
  · exact hmarks c hmark

theorem isPlainChar_of_next {scan after : AuthorityScan} {c : Char}
    (hnext : scan.next c = some after) : isPlainChar c = true := by
  by_cases hmark : c = ':' ∨ c = '[' ∨ c = ']' ∨ c = '@' ∨ c = '%'
  · rcases hmark with rfl | rfl | rfl | rfl | rfl <;> decide
  · simp only [not_or] at hmark
    obtain ⟨hcolon, hopen, hclose, hat, hpercent⟩ := hmark
    unfold AuthorityScan.next at hnext
    rw [if_neg hcolon, if_neg hopen, if_neg hclose, if_neg hat, if_neg hpercent] at hnext
    split at hnext
    · next hchar => exact isPlainChar_of_isAuthorityChar hchar
    · cases hnext

/-- A character that no authority holds is met at some point. -/
theorem scan_eq_none_of_mem {cs : List Char} {c : Char} (hc : c ∈ cs)
    (hrefused : ∀ scan : AuthorityScan, scan.next c = none) (scan : AuthorityScan) :
    cs.foldlM AuthorityScan.next scan = none := by
  induction cs generalizing scan with
  | nil => cases hc
  | cons first cs ih =>
      rw [List.foldlM_cons]
      rcases List.mem_cons.1 hc with rfl | hc
      · rw [hrefused scan]
        rfl
      · cases scan.next first with
        | none => rfl
        | some next => exact ih hc next

/-- Every character of an authority is read at some point. -/
theorem exists_next_of_mem {cs : List Char} {c : Char} (hread : isAuthority cs = true) (hc : c ∈ cs) :
    ∃ scan after : AuthorityScan, scan.next c = some after := by
  by_contra hnever
  have hrefused (scan : AuthorityScan) : scan.next c = none :=
    Option.eq_none_iff_forall_ne_some.2 fun after hnext => hnever ⟨scan, after, hnext⟩
  rw [isAuthority, scan_eq_none_of_mem hc hrefused] at hread
  cases hread

theorem isPlain_of_isAuthority {cs : List Char} (hread : isAuthority cs = true) : IsPlain cs := by
  intro c hc
  obtain ⟨scan, after, hnext⟩ := exists_next_of_mem hread hc
  exact isPlainChar_of_next hnext

theorem isSchemeChar_of_splitScheme? {cs scheme rest : List Char}
    (hsplit : splitScheme? cs = some (scheme, rest)) : ∀ c ∈ scheme, isSchemeChar c = true := by
  have hhttp : ['h', 't', 't', 'p'].all isSchemeChar = true := by decide
  have hhttps : ['h', 't', 't', 'p', 's'].all isSchemeChar = true := by decide
  unfold splitScheme? at hsplit
  dsimp only at hsplit
  split at hsplit
  · split at hsplit
    · next hsmall =>
        cases hsplit
        rcases hsmall with hsmall | hsmall
        · exact hsmall ▸ List.all_eq_true.1 hhttp
        · exact hsmall ▸ List.all_eq_true.1 hhttps
    · cases hsplit
      exact fun c hc => List.mem_takeWhile_imp hc
  · cases hsplit

/-- Scheme and authority of a target are well-formed, where it has them. -/
theorem parts_of_parse? {written : String} {target : RequestTarget}
    (hread : parse? written = some target) :
    (∀ scheme, target.scheme = some scheme → ∀ c ∈ scheme.toList, isSchemeChar c = true) ∧
      ∀ authority, target.authority = some authority → isAuthority authority.toList = true := by
  unfold parse? at hread
  dsimp only at hread
  split at hread
  · cases hread
  · split at hread
    · cases hread
      exact ⟨nofun, nofun⟩
    · split at hread
      · cases hread
      · obtain ⟨⟨path, query⟩, -, rfl⟩ := Option.map_eq_some_iff.1 hread
        exact ⟨nofun, nofun⟩
      · split at hread
        · next scheme rest hsplit =>
            split at hread
            · next hvalid =>
                obtain ⟨⟨path, query⟩, -, rfl⟩ := Option.map_eq_some_iff.1 hread
                constructor
                · rintro _ ⟨⟩
                  split at hsplit
                  · simpa using isSchemeChar_of_splitScheme? hsplit
                  · cases hsplit
                · rintro _ ⟨⟩
                  simpa using hvalid.2.2
            · cases hread
        · split at hread
          · next hvalid =>
              cases hread
              refine ⟨nofun, ?_⟩
              rintro _ ⟨⟩
              exact hvalid.1
          · cases hread

/-- Scheme and authority of a target are plain, where it has them. -/
theorem isPlain_of_parse? {written : String} {target : RequestTarget}
    (hread : parse? written = some target) :
    (∀ scheme, target.scheme = some scheme → IsPlain scheme.toList) ∧
      ∀ authority, target.authority = some authority → IsPlain authority.toList := by
  obtain ⟨hscheme, hauthority⟩ := parts_of_parse? hread
  constructor
  · intro scheme hgiven c hc
    exact isPlainChar_of_isSchemeChar (hscheme scheme hgiven c hc)
  · intro authority hgiven
    exact isPlain_of_isAuthority (hauthority authority hgiven)

end RequestTarget

end Gatehouse.Http
