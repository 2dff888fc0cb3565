import Gatehouse.Json.Raw
import Gatehouse.Proofs.Json.Progress
import Gatehouse.Proofs.Text.Encoding

/-!
# Skipped values

What can be read can be skipped, and ends at the same place, so that the bytes of an object are opened to
its wanted members. Raw texts only make a difference where a skipped value cannot be read.
-/

namespace Gatehouse.Json.Raw

/-! ## Numbers -/

theorem skipDigits_of_takeWhile {cs : List Char} (hsome : cs.takeWhile Char.isDigit ≠ []) :
    skipDigits cs = some (cs.dropWhile Char.isDigit) := by
  cases cs with
  | nil => exact absurd rfl hsome
  | cons c rest =>
      cases hdigit : c.isDigit with
      | true => rw [skipDigits, if_pos hdigit, List.dropWhile_cons_of_pos hdigit]
      | false =>
          rw [List.takeWhile_cons_of_neg (by simp [hdigit])] at hsome
          exact absurd rfl hsome

theorem skipExponent_of_exponentPart {isNegative : Bool} {n : Nat} {e : Int} {cs rest : List Char}
    {x : Json} (hread : exponentPart isNegative n e cs = some (x, rest)) :
    skipExponent cs = some rest := by
  have hskipped {digits : List Char} {y : Json}
      (hdigits : (if digits.takeWhile Char.isDigit = [] then none
        else some (y, digits.dropWhile Char.isDigit)) = some (x, rest)) :
      skipDigits digits = some rest := by
    split at hdigits
    · cases hdigits
    · next hsome =>
        cases hdigits
        exact skipDigits_of_takeWhile hsome
  unfold exponentPart at hread
  dsimp only at hread
  split at hread
  · exact hskipped hread
  · exact hskipped hread
  · next hplus hminus =>
      rw [skipExponent.eq_3 _ hplus hminus]
      exact hskipped hread

theorem skipNumberEnd_of_numberEnd {isNegative : Bool} {n : Nat} {e : Int} {cs rest : List Char}
    {x : Json} (hread : numberEnd isNegative n e cs = some (x, rest)) :
    skipNumberEnd cs = some rest := by
  unfold numberEnd at hread
  split at hread
  · exact skipExponent_of_exponentPart hread
  · exact skipExponent_of_exponentPart hread
  · next hsmall hlarge =>
      cases hread
      exact skipNumberEnd.eq_3 _ hsmall hlarge

/-- The digits that no longer fit are skipped with the others. -/
theorem dropWhile_takeDigits (n : Nat) (cs : List Char) :
    (takeDigits n cs).2.dropWhile Char.isDigit = cs.dropWhile Char.isDigit := by
  induction cs generalizing n with
  | nil => rfl
  | cons c cs ih =>
      rw [takeDigits]
      split
      · next hdigit => rw [ih, List.dropWhile_cons_of_pos hdigit.1]
      · rfl

theorem skipFraction_of_numberFrom {isNegative : Bool} {n : Nat} {cs rest : List Char} {x : Json}
    (hread : numberFrom isNegative n cs = some (x, rest)) :
    skipFraction (cs.dropWhile Char.isDigit) = some rest := by
  unfold numberFrom at hread
  dsimp only at hread
  split at hread
  · next more hpoint =>
      unfold fractionPart at hread
      dsimp only at hread
      split at hread
      · cases hread
      · next hsome =>
          rw [dropWhile_takeDigits] at hread
          rw [hpoint, skipFraction, skipDigits_of_takeWhile hsome]
          exact skipNumberEnd_of_numberEnd hread
  · next more hmark =>
      rw [hmark]
      exact skipExponent_of_exponentPart hread
  · next more hmark =>
      rw [hmark]
      exact skipExponent_of_exponentPart hread
  · next hpoint hsmall hlarge =>
      have hrest : rest = cs.dropWhile Char.isDigit := by
        repeat' split at hread
        all_goals
          cases hread
          rfl
      rw [hrest, skipFraction.eq_2 _ hpoint, skipNumberEnd.eq_3 _ hsmall hlarge]

theorem skipUnsigned_of_unsignedNumber {isNegative : Bool} {cs rest : List Char} {x : Json}
    (hread : unsignedNumber isNegative cs = some (x, rest)) : skipUnsigned cs = some rest := by
  obtain ⟨⟨n, more⟩, hfirst, hread⟩ := Option.bind_eq_some_iff.1 hread
  have hend := skipFraction_of_numberFrom hread
  unfold firstDigits at hfirst
  split at hfirst
  · cases hfirst
  · split at hfirst
    · cases hfirst
    · next halone =>
        cases hfirst
        rw [skipUnsigned, if_neg halone]
        cases more with
        | nil => exact hend
        | cons c after => rwa [List.dropWhile_cons_of_neg (by simpa using halone)] at hend
  · next c after hzero =>
      obtain ⟨hdigit, htaken⟩ := Option.ite_none_right_eq_some.1 hfirst
      have hmore : more = (takeDigits (Number.digitValue c) after).2 :=
        (congrArg Prod.snd (Option.some.inj htaken)).symm
      rw [hmore, dropWhile_takeDigits] at hend
      rw [skipUnsigned.eq_2 _ fun rest heq => hzero (List.cons.inj heq).1, skipDigits, if_pos hdigit]
      exact hend

/-- A number that can be read can be skipped. -/
theorem skipNumber_of_number {cs rest : List Char} {x : Json} (hread : number cs = some (x, rest)) :
    skipNumber cs = some rest := by
  unfold number at hread
  split at hread
  · exact skipUnsigned_of_unsignedNumber hread
  · next hminus =>
      rw [skipNumber.eq_2 _ hminus]
      exact skipUnsigned_of_unsignedNumber hread

/-! ## The raw text of characters -/

/-- The raw text of characters, one for each of their bytes. -/
def spell (cs : List Char) : Raw := ofBytes (Text.utf8 (String.ofList cs))

theorem toNat_ofNat_toNat (b : UInt8) : (Char.ofNat b.toNat).toNat = b.toNat := by
  have hbyte := b.toNat_lt
  have hvalid : b.toNat.isValidChar := .inl (by omega)
  rw [Char.ofNat, dif_pos hvalid]
  rfl

@[simp] theorem bytes_ofBytes (bs : Bytes) : (ofBytes bs).bytes = bs := by
  rw [ofBytes, bytes, List.map_map]
  refine (List.map_congr_left fun b _ => ?_).trans (List.map_id bs)
  rw [Function.comp_apply, toNat_ofNat_toNat, UInt8.ofNat_toNat, id]

@[simp] theorem spell_nil : spell [] = [] := rfl

theorem spell_cons (c : Char) (cs : List Char) :
    spell (c :: cs) = ofBytes (String.utf8EncodeChar c) ++ spell cs := by
  rw [spell, spell, Text.utf8_eq_flatMap, Text.utf8_eq_flatMap, String.toList_ofList,
    String.toList_ofList, List.flatMap_cons]
  exact List.map_append

/-- A character below 128 stands for itself. -/
theorem spell_cons_of_lt {c : Char} (hc : c.toNat < 0x80) (cs : List Char) :
    spell (c :: cs) = c :: spell cs := by
  have hsmall : Char.ofNat (UInt8.ofNat c.toNat).toNat = c := by
    refine Text.of_forall_ofNat (P := fun c => Char.ofNat (UInt8.ofNat c.toNat).toNat = c) hc ?_
    decide
  rw [spell_cons, Text.utf8EncodeChar_of_lt hc]
  exact congrArg (· :: spell cs) hsmall

/-- Any other character is spelled by characters that are not below 128. -/
theorem le_of_mem_spelling {c d : Char} (hc : 0x80 ≤ c.toNat)
    (hd : d ∈ ofBytes (String.utf8EncodeChar c)) : 0x80 ≤ d.toNat := by
  obtain ⟨b, hb, rfl⟩ := List.mem_map.1 hd
  rw [toNat_ofNat_toNat]
  refine Nat.le_of_not_lt fun hsmall => ?_
  have hsame := Text.eq_of_mem_utf8EncodeChar hsmall hb
  omega

theorem exists_spell_cons {c : Char} (hc : 0x80 ≤ c.toNat) (cs : List Char) :
    ∃ d rest, spell (c :: cs) = d :: rest ∧ 0x80 ≤ d.toNat := by
  rw [spell_cons]
  cases hspelling : ofBytes (String.utf8EncodeChar c) with
  | nil => exact absurd (List.map_eq_nil_iff.1 hspelling) String.utf8EncodeChar_ne_nil
  | cons d ds => exact ⟨d, _, rfl, le_of_mem_spelling hc (hspelling ▸ List.mem_cons_self)⟩

/-- What is dropped from the front of a text, one character below 128 after the other, is dropped from
its raw text as well. -/
theorem dropWhile_spell {p : Char → Bool} (hp : ∀ c, p c = true → c.toNat < 0x80)
    (cs : List Char) : (spell cs).dropWhile p = spell (cs.dropWhile p) := by
  induction cs with
  | nil => rfl
  | cons c cs ih =>
      by_cases hc : c.toNat < 0x80
      · rw [spell_cons_of_lt hc, List.dropWhile_cons, List.dropWhile_cons, ih]
        split
        · rfl
        · exact (spell_cons_of_lt hc cs).symm
      · obtain ⟨d, rest, hspell, hd⟩ := exists_spell_cons (Nat.le_of_not_lt hc) cs
        rw [List.dropWhile_cons_of_neg fun hdrop => hc (hp c hdrop), hspell,
          List.dropWhile_cons_of_neg fun hdrop => Nat.not_lt.2 hd (hp d hdrop)]

theorem lt_of_isDigit {c : Char} (hdigit : c.isDigit = true) : c.toNat < 0x80 := by
  have hle : c.val ≤ '9'.val := of_decide_eq_true (Bool.and_eq_true_iff.1 hdigit).2
  exact Nat.lt_of_le_of_lt (UInt32.le_iff_toNat_le.1 hle) (by decide)

theorem lt_of_isSpace {c : Char} (hspace : isSpace c = true) : c.toNat < 0x80 := by
  simp only [isSpace, Bool.or_eq_true, decide_eq_true_eq] at hspace
  rcases hspace with ((rfl | rfl) | rfl) | rfl <;> decide

theorem skipSpace_spell (cs : List Char) : skipSpace (spell cs) = spell (skipSpace cs) :=
  dropWhile_spell (fun _ => lt_of_isSpace) cs

/-! ## Strings -/

/-- Whatever is read has the same end when it is skipped in the raw text. -/
def Skips {α : Type} (result : Option (α × List Char)) (skipped : Option Raw) : Prop :=
  ∀ a rest, result = some (a, rest) → skipped = some (spell rest)

section

variable {α β : Type} {skipped : Option Raw} {result : Option (α × List Char)}

theorem skips_none : Skips (none : Option (α × List Char)) skipped := by
  intro a rest h
  cases h

theorem skips_some {a : α} {rest : List Char} (hskipped : skipped = some (spell rest)) :
    Skips (some (a, rest)) skipped := by
  intro a' rest' h
  cases h
  exact hskipped

theorem Skips.map (hskips : Skips result skipped) (f : α → β) :
    Skips (result.map fun (a, left) => (f a, left)) skipped := by
  intro b rest h
  obtain ⟨⟨a, left⟩, hread, heq⟩ := Option.map_eq_some_iff.1 h
  cases heq
  exact hskips a rest hread

end

theorem lt_of_hexValue? {c : Char} {n : Nat} (hvalue : hexValue? c = some n) : c.toNat < 0x80 := by
  unfold hexValue? at hvalue
  split at hvalue
  · next hdigit => exact lt_of_isDigit hdigit
  · split at hvalue
    · next hsmall => exact Nat.lt_of_le_of_lt (UInt32.le_iff_toNat_le.1 hsmall.2) (by decide)
    · split at hvalue
      · next hlarge => exact Nat.lt_of_le_of_lt (UInt32.le_iff_toNat_le.1 hlarge.2) (by decide)
      · cases hvalue

/-- An escaped unit stands for itself and is skipped. -/
theorem skipString_spell_unit {a b c d : Char} {unit : Nat} (hunit : hex4? a b c d = some unit)
    (rest : List Char) :
    skipString (spell ('\\' :: 'u' :: a :: b :: c :: d :: rest)) = skipString (spell rest) := by
  obtain ⟨w, ha, hmore⟩ := Option.bind_eq_some_iff.1 hunit
  obtain ⟨x, hb, hmore⟩ := Option.bind_eq_some_iff.1 hmore
  obtain ⟨y, hc, hmore⟩ := Option.bind_eq_some_iff.1 hmore
  obtain ⟨z, hd, -⟩ := Option.bind_eq_some_iff.1 hmore
  rw [spell_cons_of_lt (by decide), spell_cons_of_lt (by decide), spell_cons_of_lt (lt_of_hexValue? ha),
    spell_cons_of_lt (lt_of_hexValue? hb), spell_cons_of_lt (lt_of_hexValue? hc),
    spell_cons_of_lt (lt_of_hexValue? hd), skipString, hunit]
  rfl

theorem skipString_cons_of_plain {c : Char} (hquote : c ≠ '"') (hback : c ≠ '\\')
    (hvisible : 0x20 ≤ c.toNat) (rest : Raw) : skipString (c :: rest) = skipString rest := by
  rw [skipString.eq_5 c rest hquote (fun _ _ _ _ _ h => absurd h hback)
    (fun _ _ h => absurd h hback), if_neg (Nat.not_lt.2 hvisible)]

/-- Characters that are not below 128 are skipped one by one. -/
theorem skipString_append_of_le {high : Raw} (hhigh : ∀ d ∈ high, 0x80 ≤ d.toNat) (rest : Raw) :
    skipString (high ++ rest) = skipString rest := by
  induction high with
  | nil => rfl
  | cons d high ih =>
      obtain ⟨hd, hhigh⟩ := List.forall_mem_cons.1 hhigh
      have hother {c : Char} (hc : c.toNat < 0x80) : d ≠ c := by
        rintro rfl
        omega
      rw [List.cons_append, skipString_cons_of_plain (hother (by decide)) (hother (by decide))
        (by omega), ih hhigh]

/-- A plain character of a string is skipped with all its bytes. -/
theorem skipString_spell_plain {c : Char} (hquote : c ≠ '"') (hback : c ≠ '\\')
    (hvisible : 0x20 ≤ c.toNat) (rest : List Char) :
    skipString (spell (c :: rest)) = skipString (spell rest) := by
  by_cases hc : c.toNat < 0x80
  · rw [spell_cons_of_lt hc, skipString_cons_of_plain hquote hback hvisible]
  · rw [spell_cons]
    exact skipString_append_of_le (fun d => le_of_mem_spelling (Nat.le_of_not_lt hc)) _

theorem lt_of_escaped? {c d : Char} (hescaped : escaped? c = some d) : c.toNat < 0x80 := by
  unfold escaped? at hescaped
  split at hescaped
  all_goals first | decide | cases hescaped

/-- A string that can be read can be skipped. -/
theorem skips_stringBody (cs : List Char) : Skips (stringBody cs) (skipString (spell cs)) := by
  fun_induction stringBody cs with
  | case1 => exact skips_none
  | case2 rest =>
      rw [spell_cons_of_lt (by decide)]
      exact skips_some rfl
  | case3 => exact skips_none
  | case4 => exact skips_none
  | case5 a b c d e f g h rest high hhigh _ low hlow _ ih =>
      rw [skipString_spell_unit hhigh, skipString_spell_unit hlow]
      exact ih.map _
  | case6 => exact skips_none
  | case7 => exact skips_none
  | case8 a b c d e f g h rest unit hunit _ _ ih =>
      rw [skipString_spell_unit hunit]
      exact ih.map _
  | case9 => exact skips_none
  | case10 => exact skips_none
  | case11 a b c d rest _ unit hunit _ ih =>
      rw [skipString_spell_unit hunit]
      exact ih.map _
  | case12 => exact skips_none
  | case13 c rest _ _ escaped hescaped ih =>
      have hletter : c ≠ 'u' := by
        rintro rfl
        cases hescaped
      rw [spell_cons_of_lt (by decide), spell_cons_of_lt (lt_of_escaped? hescaped),
        skipString.eq_4 c _ (fun _ _ _ _ _ h => absurd h hletter), hescaped]
      exact ih.map _
  | case14 => exact skips_none
  | case15 c rest hquote _ _ hback hvisible ih =>
      by_cases hlast : c = '\\'
      · -- A backslash with nothing behind it ends no string.
        cases rest with
        | nil => exact skips_none
        | cons d rest => exact absurd rfl (hback d rest hlast)
      · rw [skipString_spell_plain hquote hlast (Nat.le_of_not_lt hvisible)]
        exact ih.map _

/-! ## Numbers in raw texts -/

/-- A raw text begins with a character below 128 only if the text does. -/
theorem eq_cons_of_spell {c : Char} (hc : c.toNat < 0x80) {cs : List Char} {raw : Raw}
    (hspell : spell cs = c :: raw) : ∃ rest, cs = c :: rest ∧ raw = spell rest := by
  cases cs with
  | nil => cases hspell
  | cons d rest =>
      by_cases hd : d.toNat < 0x80
      · rw [spell_cons_of_lt hd] at hspell
        cases hspell
        exact ⟨rest, rfl, rfl⟩
      · obtain ⟨e, raw', hhigh, he⟩ := exists_spell_cons (Nat.le_of_not_lt hd) rest
        rw [hhigh] at hspell
        cases hspell
        omega

theorem spell_ne_cons {c : Char} (hc : c.toNat < 0x80) {cs : List Char}
    (hne : ∀ rest, cs = c :: rest → False) (raw : Raw) : spell cs = c :: raw → False := by
  intro hspell
  obtain ⟨rest, hrest, -⟩ := eq_cons_of_spell hc hspell
  exact hne rest hrest

theorem skipDigits_spell (cs : List Char) : skipDigits (spell cs) = (skipDigits cs).map spell := by
  cases cs with
  | nil => rfl
  | cons c rest =>
      cases hdigit : c.isDigit with
      | true =>
          rw [spell_cons_of_lt (lt_of_isDigit hdigit), skipDigits, skipDigits, if_pos hdigit,
            if_pos hdigit, dropWhile_spell (fun _ => lt_of_isDigit)]
          rfl
      | false =>
          have hnone : skipDigits (c :: rest) = none := by
            rw [skipDigits, hdigit]
            rfl
          rw [hnone]
          cases hspell : spell (c :: rest) with
          | nil => rfl
          | cons d raw =>
              rw [skipDigits]
              refine if_neg fun hd => ?_
              obtain ⟨_, hsame, -⟩ := eq_cons_of_spell (lt_of_isDigit hd) hspell
              cases hsame
              rw [hdigit] at hd
              cases hd

theorem skipExponent_spell (cs : List Char) :
    skipExponent (spell cs) = (skipExponent cs).map spell := by
  unfold skipExponent
  split
  · next raw hplus =>
      obtain ⟨rest, rfl, rfl⟩ := eq_cons_of_spell (by decide) hplus
      exact skipDigits_spell rest
  · next raw hminus =>
      obtain ⟨rest, rfl, rfl⟩ := eq_cons_of_spell (by decide) hminus
      exact skipDigits_spell rest
  · next hplus hminus =>
      split
      · next rest => exact absurd (spell_cons_of_lt (by decide) rest) (hplus _)
      · next rest => exact absurd (spell_cons_of_lt (by decide) rest) (hminus _)
      · exact skipDigits_spell cs

theorem skipNumberEnd_spell (cs : List Char) :
    skipNumberEnd (spell cs) = (skipNumberEnd cs).map spell := by
  unfold skipNumberEnd
  split
  · next raw hsmall =>
      obtain ⟨rest, rfl, rfl⟩ := eq_cons_of_spell (by decide) hsmall
      exact skipExponent_spell rest
  · next raw hlarge =>
      obtain ⟨rest, rfl, rfl⟩ := eq_cons_of_spell (by decide) hlarge
      exact skipExponent_spell rest
  · next hsmall hlarge =>
      split
      · next rest => exact absurd (spell_cons_of_lt (by decide) rest) (hsmall _)
      · next rest => exact absurd (spell_cons_of_lt (by decide) rest) (hlarge _)
      · rfl

theorem skipFraction_spell (cs : List Char) :
    skipFraction (spell cs) = (skipFraction cs).map spell := by
  unfold skipFraction
  split
  · next raw hpoint =>
      obtain ⟨rest, rfl, rfl⟩ := eq_cons_of_spell (by decide) hpoint
      change _ = ((skipDigits rest).bind skipNumberEnd).map spell
      rw [skipDigits_spell, Option.map_bind, Option.bind_map]
      exact congrArg _ (funext skipNumberEnd_spell)
  · next hpoint =>
      split
      · next rest => exact absurd (spell_cons_of_lt (by decide) rest) (hpoint _)
      · exact skipNumberEnd_spell cs

/-- Whether a digit comes first can be told from the raw text. -/
theorem head?_isDigit_spell (cs : List Char) :
    ((spell cs).head?.map Char.isDigit).getD false = (cs.head?.map Char.isDigit).getD false := by
  cases cs with
  | nil => rfl
  | cons c rest =>
      by_cases hc : c.toNat < 0x80
      · rw [spell_cons_of_lt hc]
        rfl
      · obtain ⟨d, raw, hspell, hd⟩ := exists_spell_cons (Nat.le_of_not_lt hc) rest
        rw [hspell]
        calc
          d.isDigit = false := Bool.eq_false_iff.2 fun hdigit => Nat.not_lt.2 hd (lt_of_isDigit hdigit)
          _ = c.isDigit := (Bool.eq_false_iff.2 fun hdigit => hc (lt_of_isDigit hdigit)).symm

theorem skipUnsigned_spell (cs : List Char) :
    skipUnsigned (spell cs) = (skipUnsigned cs).map spell := by
  unfold skipUnsigned
  split
  · next raw hzero =>
      obtain ⟨rest, rfl, rfl⟩ := eq_cons_of_spell (by decide) hzero
      rw [head?_isDigit_spell]
      change _ = (if _ then none else skipFraction rest).map spell
      split
      · rfl
      · exact skipFraction_spell rest
  · next hzero =>
      split
      · next rest => exact absurd (spell_cons_of_lt (by decide) rest) (hzero _)
      · rw [skipDigits_spell, Option.map_bind, Option.bind_map]
        exact congrArg _ (funext skipFraction_spell)

theorem skipNumber_spell (cs : List Char) :
    skipNumber (spell cs) = (skipNumber cs).map spell := by
  unfold skipNumber
  split
  · next raw hminus =>
      obtain ⟨rest, rfl, rfl⟩ := eq_cons_of_spell (by decide) hminus
      exact skipUnsigned_spell rest
  · next hminus =>
      split
      · next rest => exact absurd (spell_cons_of_lt (by decide) rest) (hminus _)
      · exact skipUnsigned_spell cs

theorem skips_number (cs : List Char) : Skips (number cs) (skipNumber (spell cs)) := by
  intro x rest hread
  rw [skipNumber_spell, skipNumber_of_number hread]
  rfl

/-! ## Values -/

/-- A sign or a digit begins a number. -/
theorem exists_cons_of_number {cs rest : List Char} {x : Json} (hread : number cs = some (x, rest)) :
    ∃ c more, cs = c :: more ∧ (c = '-' ∨ c.isDigit = true) := by
  have hdigits {isNegative : Bool} {cs : List Char}
      (hunsigned : unsignedNumber isNegative cs = some (x, rest)) :
      ∃ c more, cs = c :: more ∧ c.isDigit = true := by
    obtain ⟨_, hfirst, -⟩ := Option.bind_eq_some_iff.1 hunsigned
    unfold firstDigits at hfirst
    split at hfirst
    · cases hfirst
    · exact ⟨_, _, rfl, rfl⟩
    · exact ⟨_, _, rfl, (Option.ite_none_right_eq_some.1 hfirst).1⟩
  unfold number at hread
  split at hread
  · exact ⟨_, _, rfl, .inl rfl⟩
  · obtain ⟨c, more, hcs, hdigit⟩ := hdigits hread
    exact ⟨c, more, hcs, .inr hdigit⟩

section

variable {n : Nat} (hvalue : ∀ cs, Skips (value n cs) (skipValue n (spell cs)))
  (hitems : ∀ cs, Skips (items n cs) (skipItems n (spell cs)))
  (hmembers : ∀ cs, Skips (members n cs) (skipMembers n (spell cs)))

include hitems hmembers in
theorem skips_value_succ (cs : List Char) :
    Skips (value (n + 1) cs) (skipValue (n + 1) (spell cs)) := by
  rw [value, skipValue, skipSpace_spell]
  split
  · next rest h =>
      simp (disch := decide) only [h, spell_cons_of_lt]
      exact skips_some rfl
  · next rest h =>
      simp (disch := decide) only [h, spell_cons_of_lt]
      exact skips_some rfl
  · next rest h =>
      simp (disch := decide) only [h, spell_cons_of_lt]
      exact skips_some rfl
  · next rest h =>
      simp (disch := decide) only [h, spell_cons_of_lt]
      exact (skips_stringBody rest).map fun s => str (String.ofList s)
  · next rest h =>
      simp (disch := decide) only [h, spell_cons_of_lt, skipSpace_spell]
      split
      · next left hclose =>
          rw [hclose, spell_cons_of_lt (by decide)]
          exact skips_some rfl
      · next hmore =>
          split
          · next hclose =>
              exact absurd hclose (spell_ne_cons (by decide) hmore _)
          · exact (hitems rest).map _
  · next rest h =>
      simp (disch := decide) only [h, spell_cons_of_lt, skipSpace_spell]
      split
      · next left hclose =>
          rw [hclose, spell_cons_of_lt (by decide)]
          exact skips_some rfl
      · next hmore =>
          split
          · next hclose =>
              exact absurd hclose (spell_ne_cons (by decide) hmore _)
          · exact (hmembers rest).map _
  · next hnull htrue hfalse hstring harray hobject =>
      intro x rest hread
      obtain ⟨c, more, hcs, hfirst⟩ := exists_cons_of_number hread
      have hc : c.toNat < 0x80 := by
        rcases hfirst with rfl | hdigit
        · decide
        · exact lt_of_isDigit hdigit
      have hskipped := skips_number _ x rest hread
      rw [hcs, spell_cons_of_lt hc] at hskipped ⊢
      -- Neither a sign nor a digit begins anything but a number.
      have hother {d : Char} (hsign : d ≠ '-') (hdigit : d.isDigit = false) : c ≠ d := by
        rintro rfl
        rcases hfirst with hminus | hdigit'
        · exact hsign hminus
        · rw [hdigit] at hdigit'
          cases hdigit'
      split
      · next heq => exact absurd (List.cons.inj heq).1 (hother (by decide) rfl)
      · next heq => exact absurd (List.cons.inj heq).1 (hother (by decide) rfl)
      · next heq => exact absurd (List.cons.inj heq).1 (hother (by decide) rfl)
      · next heq => exact absurd (List.cons.inj heq).1 (hother (by decide) rfl)
      · next heq => exact absurd (List.cons.inj heq).1 (hother (by decide) rfl)
      · next heq => exact absurd (List.cons.inj heq).1 (hother (by decide) rfl)
      · exact hskipped

include hvalue hitems in
theorem skips_items_succ (cs : List Char) :
    Skips (items (n + 1) cs) (skipItems (n + 1) (spell cs)) := by
  rw [items, skipItems]
  cases hread : value n cs with
  | none => exact skips_none
  | some found =>
      obtain ⟨x, rest⟩ := found
      rw [hvalue cs x rest hread]
      dsimp only
      rw [skipSpace_spell]
      split
      · next left hclose =>
          rw [hclose, spell_cons_of_lt (by decide)]
          exact skips_some rfl
      · next more hcomma =>
          rw [hcomma, spell_cons_of_lt (by decide)]
          exact (hitems more).map _
      · exact skips_none

include hvalue hmembers in
theorem skips_members_succ (cs : List Char) :
    Skips (members (n + 1) cs) (skipMembers (n + 1) (spell cs)) := by
  rw [members, skipMembers, skipSpace_spell]
  split
  · next named hquote =>
      simp (disch := decide) only [hquote, spell_cons_of_lt]
      cases hname : stringBody named with
      | none => exact skips_none
      | some found =>
          obtain ⟨name, rest⟩ := found
          rw [skips_stringBody named name rest hname]
          dsimp only
          rw [skipSpace_spell]
          split
          · next valued hcolon =>
              simp (disch := decide) only [hcolon, spell_cons_of_lt]
              cases hread : value n valued with
              | none => exact skips_none
              | some found =>
                  obtain ⟨x, after⟩ := found
                  rw [hvalue valued x after hread]
                  dsimp only
                  rw [skipSpace_spell]
                  split
                  · next left hclose =>
                      rw [hclose, spell_cons_of_lt (by decide)]
                      exact skips_some rfl
                  · next more hcomma =>
                      rw [hcomma, spell_cons_of_lt (by decide)]
                      exact (hmembers more).map _
                  · exact skips_none
          · exact skips_none
  · exact skips_none

end

theorem skips_steps (n : Nat) :
    (∀ cs, Skips (value n cs) (skipValue n (spell cs))) ∧
      (∀ cs, Skips (items n cs) (skipItems n (spell cs))) ∧
      ∀ cs, Skips (members n cs) (skipMembers n (spell cs)) := by
  induction n with
  | zero => exact ⟨fun _ => skips_none, fun _ => skips_none, fun _ => skips_none⟩
  | succ n ih =>
      obtain ⟨hvalue, hitems, hmembers⟩ := ih
      exact ⟨skips_value_succ hitems hmembers, skips_items_succ hvalue hitems,
        skips_members_succ hvalue hmembers⟩

/-! ## Objects -/

/-- A reader of characters reads them from their raw text. -/
theorem readText_spell {α : Type} (read : List Char → Option (α × List Char)) (cs : List Char) :
    readText read (spell cs) = (read cs).map fun (a, rest) => (a, spell rest) := by
  rw [readText, spell, bytes_ofBytes, Text.splitText_utf8]
  simp only [String.toList_ofList, List.append_nil]
  rfl

theorem length_le_length_spell (cs : List Char) : cs.length ≤ (spell cs).length := by
  induction cs with
  | nil => exact Nat.le_refl 0
  | cons c cs ih =>
      have hsome : (ofBytes (String.utf8EncodeChar c)).length ≠ 0 := by
        rw [ofBytes, List.length_map]
        exact mt List.length_eq_zero_iff.1 String.utf8EncodeChar_ne_nil
      rw [spell_cons, List.length_append, List.length_cons]
      omega

/-- The value of a member ends where it ends in the text, whether it is wanted or not. -/
theorem memberValue_spell {cs rest : List Char} {x : Json} (hread : read cs = some (x, rest))
    (isWanted : Bool) :
    memberValue isWanted (spell cs) = some (if isWanted then some x else none, spell rest) := by
  cases isWanted with
  | true =>
      rw [memberValue, if_pos rfl, readText_spell, hread]
      rfl
  | false =>
      have hsteps : value ((spell cs).length + 1) cs = some (x, rest) := by
        have hlength := length_le_length_spell cs
        exact (settles_steps _).1 cs x rest _ hread (by omega)
      rw [memberValue, if_neg Bool.false_ne_true, (skips_steps _).1 cs x rest hsteps]
      rfl

/-- Of the members of an object the wanted ones are found in the raw text. -/
theorem openMembers_spell {n : Nat} {cs rest : List Char} {ms : List (String × Json)}
    (hopened : Json.openMembers n cs = ⟨ms, .closed rest⟩) (isWanted : String → Bool) :
    openMembers isWanted n (spell cs) =
      ⟨ms.filter fun member => isWanted member.1, .closed (spell rest)⟩ := by
  induction n generalizing cs ms with
  | zero => cases hopened
  | succ n ih =>
      rw [Json.openMembers] at hopened
      rw [openMembers, skipSpace_spell]
      split at hopened
      · next named hquote =>
          simp (disch := decide) only [hquote, spell_cons_of_lt]
          rw [readText_spell]
          split at hopened
          · cases hopened
          · next chars left hname =>
              rw [hname]
              dsimp only [Option.map_some] at hopened ⊢
              rw [skipSpace_spell]
              split at hopened
              · next valued hcolon =>
                  simp (disch := decide) only [hcolon, spell_cons_of_lt]
                  split at hopened
                  · cases hopened
                  · next x after hread =>
                      have hmembers (later : List (String × Json)) :
                          ((String.ofList chars, x) :: later).filter (fun m => isWanted m.1) =
                            ((if isWanted (String.ofList chars) then some x else none).toList.map
                              fun x => (String.ofList chars, x)) ++
                              later.filter fun m => isWanted m.1 := by
                        rw [List.filter_cons]
                        dsimp only
                        cases isWanted (String.ofList chars) <;> rfl
                      rw [memberValue_spell hread]
                      dsimp only
                      rw [skipSpace_spell]
                      split at hopened
                      · next last hclose =>
                          cases hopened
                          simp (disch := decide) only [hclose, spell_cons_of_lt]
                          rw [hmembers, List.filter_nil, List.append_nil]
                      · next more hcomma =>
                          simp (disch := decide) only [hcomma, spell_cons_of_lt]
                          have hending : (Json.openMembers n more).ending = .closed rest :=
                            congrArg Opening.ending hopened
                          have hlater : Json.openMembers n more =
                              ⟨(Json.openMembers n more).members, .closed rest⟩ := by
                            rw [← hending]
                          rw [ih hlater]
                          cases congrArg Opening.members hopened
                          dsimp only
                          rw [hmembers]
                      · cases hopened
              · cases hopened
      · cases hopened

/-- The bytes of an object are opened to its wanted members. -/
theorem open?_utf8 {text : String} {rest : List Char} {ms : List (String × Json)}
    (hopened : Opening.ofText? text.toList = some ⟨ms, .closed rest⟩) (isWanted : String → Bool) :
    open? isWanted (Text.utf8 text) =
      some ⟨ms.filter fun member => isWanted member.1, .closed (spell rest)⟩ := by
  have hraw : ofBytes (Text.utf8 text) = spell text.toList := by
    rw [spell, String.ofList_toList]
  unfold Opening.ofText? at hopened
  rw [open?, hraw, skipSpace_spell]
  split at hopened
  · next inner hopen =>
      simp (disch := decide) only [hopen, spell_cons_of_lt, skipSpace_spell]
      split at hopened
      · next left hclose =>
          cases hopened
          simp (disch := decide) only [hclose, spell_cons_of_lt]
          rfl
      · next hmore =>
          have hsteps : Json.openMembers ((spell inner).length + 1) inner = ⟨ms, .closed rest⟩ :=
            openMembers_of_members (members_of_openMembers (Option.some.inj hopened))
              (Nat.lt_succ_of_le (length_le_length_spell inner))
          split
          · next hclose => exact absurd hclose (spell_ne_cons (by decide) hmore _)
          · rw [openMembers_spell hsteps]
  · cases hopened

/-- The bytes of a text begin with an object only if the text does. -/
theorem isSome_ofText?_of_open? {text : String} {opening : Opening} {isWanted : String → Bool}
    (hopened : open? isWanted (Text.utf8 text) = some opening) :
    (Opening.ofText? text.toList).isSome := by
  have hraw : ofBytes (Text.utf8 text) = spell text.toList := by
    rw [spell, String.ofList_toList]
  rw [open?, hraw, skipSpace_spell] at hopened
  split at hopened
  · next raw hopen =>
      obtain ⟨inner, hinner, -⟩ := eq_cons_of_spell (by decide) hopen
      simp only [Opening.ofText?, hinner]
      split <;> rfl
  · cases hopened

end Gatehouse.Json.Raw
