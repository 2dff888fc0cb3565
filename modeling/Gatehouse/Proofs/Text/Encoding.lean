import Gatehouse.Text.Utf8

/-!
# Characters and their bytes

The bytes of a text are those of its characters one after the other. A character below 128 is one byte
of the same number, and no other character has such a byte.
-/

namespace Gatehouse.Text

/-- What holds of the characters of all numbers below a bound holds of each character below it. -/
@[elab_as_elim]
theorem of_forall_ofNat {P : Char → Prop} {bound : Nat} {c : Char} (hc : c.toNat < bound)
    (hall : ∀ n < bound, P (Char.ofNat n)) : P c := by
  have hchar := hall c.toNat hc
  rwa [Char.ofNat_toNat] at hchar

theorem utf8_eq_flatMap (s : String) : utf8 s = s.toList.flatMap String.utf8EncodeChar := by
  have hbytes : s.toUTF8 = s.toList.utf8Encode := String.utf8Encode_toList.symm
  rw [utf8, hbytes, List.utf8Encode, List.data_toByteArray]

theorem utf8EncodeChar_of_lt {c : Char} (hc : c.toNat < 0x80) :
    String.utf8EncodeChar c = [UInt8.ofNat c.toNat] :=
  if_pos (Nat.le_of_lt_succ hc)

/-- A byte below 128 is a character of its own. -/
theorem eq_of_mem_utf8EncodeChar {c : Char} {b : UInt8} (hb : b.toNat < 0x80)
    (hmem : b ∈ String.utf8EncodeChar c) : c.toNat = b.toNat := by
  have hhigh (n : Nat) (hn : 0x80 ≤ n % 256) : b ≠ UInt8.ofNat n := by
    rintro rfl
    rw [UInt8.toNat_ofNat'] at hb
    omega
  unfold String.utf8EncodeChar at hmem
  dsimp only at hmem
  split at hmem
  · next hsmall =>
      rw [List.mem_singleton.1 hmem, UInt8.toNat_ofNat']
      have hval : c.val.toNat = c.toNat := rfl
      omega
  · -- All bytes of a longer form are at least 128.
    split at hmem
    · simp only [List.mem_cons, List.not_mem_nil, or_false] at hmem
      rcases hmem with hmem | hmem <;> exact absurd hmem (hhigh _ (by omega))
    · split at hmem
      · simp only [List.mem_cons, List.not_mem_nil, or_false] at hmem
        rcases hmem with hmem | hmem | hmem <;> exact absurd hmem (hhigh _ (by omega))
      · simp only [List.mem_cons, List.not_mem_nil, or_false] at hmem
        rcases hmem with hmem | hmem | hmem | hmem <;> exact absurd hmem (hhigh _ (by omega))

/-- A character below 128 stands in a text if its byte is among the bytes of the text. -/
theorem mem_utf8_iff {c : Char} (hc : c.toNat < 0x80) {s : String} :
    UInt8.ofNat c.toNat ∈ utf8 s ↔ c ∈ s.toList := by
  rw [utf8_eq_flatMap, List.mem_flatMap]
  constructor
  · rintro ⟨d, hd, hmem⟩
    have hbyte : (UInt8.ofNat c.toNat).toNat = c.toNat := by
      rw [UInt8.toNat_ofNat']
      omega
    have hsame := eq_of_mem_utf8EncodeChar (by omega) hmem
    rw [hbyte, Char.toNat_inj] at hsame
    exact hsame ▸ hd
  · intro hmem
    refine ⟨c, hmem, ?_⟩
    rw [utf8EncodeChar_of_lt hc]
    exact List.mem_singleton_self _

/-- Characters below 128 are one byte each. -/
theorem utf8_ofList_of_lt {cs : List Char} (hcs : ∀ c ∈ cs, c.toNat < 0x80) :
    utf8 (String.ofList cs) = cs.map fun c => UInt8.ofNat c.toNat := by
  rw [utf8_eq_flatMap, String.toList_ofList]
  induction cs with
  | nil => rfl
  | cons c cs ih =>
      obtain ⟨hc, hcs⟩ := List.forall_mem_cons.1 hcs
      rw [List.flatMap_cons, utf8EncodeChar_of_lt hc, ih hcs, List.map_cons, List.singleton_append]

/-- Bytes below 128 are the bytes of the text that they are read as. -/
theorem utf8_ofAscii {bytes : Bytes} (hbytes : ∀ b ∈ bytes, b.toNat < 0x80) :
    utf8 (ofAscii bytes) = bytes := by
  have hsmall : ∀ n < 0x80, (Char.ofNat n).toNat = n := by decide
  have hchar (b : UInt8) (hb : b ∈ bytes) : (Char.ofNat b.toNat).toNat = b.toNat :=
    hsmall b.toNat (hbytes b hb)
  rw [ofAscii, utf8_ofList_of_lt, List.map_map]
  · refine (List.map_congr_left fun b hb => ?_).trans (List.map_id bytes)
    rw [Function.comp_apply, hchar b hb, UInt8.ofNat_toNat, id]
  · intro c hc
    obtain ⟨b, hb, rfl⟩ := List.mem_map.1 hc
    rw [hchar b hb]
    exact hbytes b hb

end Gatehouse.Text
