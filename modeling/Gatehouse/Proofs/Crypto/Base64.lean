import Gatehouse.Crypto.Base64

/-!
# Bytes through base 64

What is written in base 64 is read back, byte for byte, and nothing else is read. Between bytes and characters stand the values of
the characters: writing them out and reading them back is a matter of one alphabet, and grouping them
is a matter of the bytes alone.
-/

namespace Gatehouse.Crypto.Base64

/-! ## Values of the characters -/

/-- The values of the characters that stand for bytes. -/
def sextets : Bytes → List Nat
  | a :: b :: c :: rest =>
    a.toNat / 4 :: (a.toNat % 4 * 16 + b.toNat / 16) :: (b.toNat % 16 * 4 + c.toNat / 64) ::
      c.toNat % 64 :: sextets rest
  | [a, b] => [a.toNat / 4, a.toNat % 4 * 16 + b.toNat / 16, b.toNat % 16 * 4]
  | [a] => [a.toNat / 4, a.toNat % 4 * 16]
  | [] => []

theorem encode_eq_map (alphabet : Alphabet) (bytes : Bytes) :
    encode alphabet bytes = (sextets bytes).map (digit alphabet) := by
  induction bytes using sextets.induct with
  | case1 a b c rest ih =>
      rw [encode, sextets, ih]
      rfl
  | case2 a b => rfl
  | case3 a => rfl
  | case4 => rfl

theorem lt_of_mem_sextets {bytes : Bytes} : ∀ n ∈ sextets bytes, n < 64 := by
  induction bytes using sextets.induct with
  | case1 a b c rest ih =>
      have ha := a.toNat_lt
      have hb := b.toNat_lt
      have hc := c.toNat_lt
      rw [sextets]
      simp only [List.forall_mem_cons]
      exact ⟨by omega, by omega, by omega, by omega, ih⟩
  | case2 a b =>
      have ha := a.toNat_lt
      have hb := b.toNat_lt
      rw [sextets]
      simp only [List.forall_mem_cons]
      exact ⟨by omega, by omega, by omega, by simp⟩
  | case3 a =>
      have ha := a.toNat_lt
      rw [sextets]
      simp only [List.forall_mem_cons]
      exact ⟨by omega, by omega, by simp⟩
  | case4 =>
      intro n hn
      cases hn

/-- A byte is put together from its value. -/
theorem ofNat_eq_of_toNat_eq {a : UInt8} {n : Nat} (hvalue : a.toNat = n) : UInt8.ofNat n = a := by
  rw [← hvalue, UInt8.ofNat_toNat]

theorem decodeDigits?_sextets (bytes : Bytes) : decodeDigits? (sextets bytes) = some bytes := by
  induction bytes using sextets.induct with
  | case1 a b c rest ih =>
      have ha := a.toNat_lt
      have hb := b.toNat_lt
      have hc := c.toNat_lt
      rw [sextets, decodeDigits?, ih, Option.map_some,
        ofNat_eq_of_toNat_eq (a := a) (by omega), ofNat_eq_of_toNat_eq (a := b) (by omega),
        ofNat_eq_of_toNat_eq (a := c) (by omega)]
  | case2 a b =>
      have ha := a.toNat_lt
      have hb := b.toNat_lt
      rw [sextets, decodeDigits?, if_pos (by omega), ofNat_eq_of_toNat_eq (a := a) (by omega),
        ofNat_eq_of_toNat_eq (a := b) (by omega)]
  | case3 a =>
      have ha := a.toNat_lt
      rw [sextets, decodeDigits?, if_pos (by omega), ofNat_eq_of_toNat_eq (a := a) (by omega)]
  | case4 => rfl

theorem toNat_ofNat_of_lt {n : Nat} (hn : n < 256) : (UInt8.ofNat n).toNat = n :=
  UInt8.toNat_ofNat_of_lt' hn

/-- The values that are read as bytes are those of the bytes, since no bit is left over. -/
theorem sextets_of_decodeDigits? {ns : List Nat} {bytes : Bytes} (hns : ∀ n ∈ ns, n < 64)
    (hdecoded : decodeDigits? ns = some bytes) : sextets bytes = ns := by
  induction ns using decodeDigits?.induct generalizing bytes with
  | case1 a b c d rest ih =>
      simp only [List.forall_mem_cons] at hns
      obtain ⟨ha, hb, hc, hd, hrest⟩ := hns
      rw [decodeDigits?] at hdecoded
      obtain ⟨others, hothers, hdecoded⟩ := Option.map_eq_some_iff.1 hdecoded
      cases hdecoded
      rw [sextets, ih hrest hothers, toNat_ofNat_of_lt (by omega), toNat_ofNat_of_lt (by omega),
        toNat_ofNat_of_lt (by omega)]
      congr 1
      · omega
      congr 1
      · omega
      congr 1
      · omega
      congr 1
      omega
  | case2 a b c hwhole =>
      simp only [List.forall_mem_cons] at hns
      obtain ⟨ha, hb, hc, -⟩ := hns
      rw [decodeDigits?, if_pos hwhole] at hdecoded
      cases hdecoded
      rw [sextets, toNat_ofNat_of_lt (by omega), toNat_ofNat_of_lt (by omega)]
      congr 1
      · omega
      congr 1
      · omega
      congr 1
      omega
  | case3 a b c hpartial =>
      rw [decodeDigits?, if_neg hpartial] at hdecoded
      cases hdecoded
  | case4 a b hwhole =>
      simp only [List.forall_mem_cons] at hns
      obtain ⟨ha, hb, -⟩ := hns
      rw [decodeDigits?, if_pos hwhole] at hdecoded
      cases hdecoded
      rw [sextets, toNat_ofNat_of_lt (by omega)]
      congr 1
      · omega
      congr 1
      omega
  | case5 a b hpartial =>
      rw [decodeDigits?, if_neg hpartial] at hdecoded
      cases hdecoded
  | case6 a => cases hdecoded
  | case7 =>
      cases hdecoded
      rfl

/-! ## The alphabet for URLs -/

theorem digitValue?_digit {n : Nat} (hn : n < 64) :
    digitValue? urlSafe (digit urlSafe n) = some n := by
  revert n
  decide

/-- No character for a value is a dot. -/
theorem digit_ne_dot {n : Nat} (hn : n < 64) : digit urlSafe n ≠ '.' := by
  revert n
  decide

theorem mapM_digitValue?_map {ns : List Nat} (hns : ∀ n ∈ ns, n < 64) :
    (ns.map (digit urlSafe)).mapM (digitValue? urlSafe) = some ns := by
  induction ns with
  | nil => rfl
  | cons n ns ih =>
      obtain ⟨hn, hrest⟩ := List.forall_mem_cons.1 hns
      rw [List.map_cons, List.mapM_cons, digitValue?_digit hn, ih hrest]
      rfl

/-- What is written is read back. -/
theorem decode?_encode (bytes : Bytes) : decode? urlSafe (encode urlSafe bytes) = some bytes := by
  rw [decode?, encode_eq_map, mapM_digitValue?_map lt_of_mem_sextets]
  exact decodeDigits?_sextets bytes

theorem isUpper_iff {c : Char} : c.isUpper = true ↔ 'A'.toNat ≤ c.toNat ∧ c.toNat ≤ 'Z'.toNat := by
  have hrange : c.isUpper = decide ('A'.toNat ≤ c.toNat ∧ c.toNat ≤ 'Z'.toNat) := rfl
  rw [hrange, decide_eq_true_eq]

theorem isLower_iff {c : Char} : c.isLower = true ↔ 'a'.toNat ≤ c.toNat ∧ c.toNat ≤ 'z'.toNat := by
  have hrange : c.isLower =
      (decide ('a'.toNat ≤ c.toNat) && decide (c.toNat ≤ 'z'.toNat)) := rfl
  rw [hrange, Bool.and_eq_true, decide_eq_true_eq, decide_eq_true_eq]

/-- The character of a value is the one that has it. -/
theorem digit_of_digitValue? {c : Char} {n : Nat} (hvalue : digitValue? urlSafe c = some n) :
    n < 64 ∧ digit urlSafe n = c := by
  rw [digitValue?] at hvalue
  split at hvalue
  · next hupper =>
      cases hvalue
      obtain ⟨hlow, hhigh⟩ := isUpper_iff.1 hupper
      have hsize : c.toNat - 'A'.toNat < 26 := Nat.sub_lt_left_of_lt_add hlow (Nat.lt_succ_of_le hhigh)
      refine ⟨by omega, ?_⟩
      rw [digit, if_pos hsize, Nat.add_sub_cancel' hlow, Char.ofNat_toNat]
  · split at hvalue
    · next hlower =>
        cases hvalue
        obtain ⟨hlow, hhigh⟩ := isLower_iff.1 hlower
        have hsize : c.toNat - 'a'.toNat < 26 :=
          Nat.sub_lt_left_of_lt_add hlow (Nat.lt_succ_of_le hhigh)
        refine ⟨by omega, ?_⟩
        rw [digit, if_neg (by omega), if_pos (by omega), Nat.add_sub_cancel, Nat.add_sub_cancel' hlow,
          Char.ofNat_toNat]
    · split at hvalue
      · next hdigit =>
          cases hvalue
          obtain ⟨hlow, hhigh⟩ := Char.isDigit_iff_toNat.1 hdigit
          have hsize : c.toNat - '0'.toNat < 10 :=
            Nat.sub_lt_left_of_lt_add hlow (Nat.lt_succ_of_le hhigh)
          refine ⟨by omega, ?_⟩
          rw [digit, if_neg (by omega), if_neg (by omega), if_pos (by omega), Nat.add_sub_cancel,
            Nat.add_sub_cancel' hlow, Char.ofNat_toNat]
      · split at hvalue
        · next hplus =>
            cases hvalue
            exact ⟨by decide, hplus.symm⟩
        · obtain ⟨hslash, hsize⟩ := Option.ite_none_right_eq_some.1 hvalue
          cases hsize
          exact ⟨by decide, hslash.symm⟩

theorem map_digit_of_mapM_digitValue? {cs : List Char} {ns : List Nat}
    (hvalues : cs.mapM (digitValue? urlSafe) = some ns) :
    (∀ n ∈ ns, n < 64) ∧ ns.map (digit urlSafe) = cs := by
  induction cs generalizing ns with
  | nil =>
      cases hvalues
      exact ⟨fun n hn => absurd hn List.not_mem_nil, rfl⟩
  | cons c cs ih =>
      rw [List.mapM_cons] at hvalues
      obtain ⟨n, hn, hvalues⟩ := Option.bind_eq_some_iff.1 hvalues
      obtain ⟨rest, hrest, hvalues⟩ := Option.bind_eq_some_iff.1 hvalues
      cases hvalues
      obtain ⟨hlt, hdigit⟩ := digit_of_digitValue? hn
      obtain ⟨hrests, hdigits⟩ := ih hrest
      refine ⟨List.forall_mem_cons.2 ⟨hlt, hrests⟩, ?_⟩
      rw [List.map_cons, hdigit, hdigits]

/-- Every byte string has one written form: what is read is what would be written. -/
theorem encode_of_decode? {cs : List Char} {bytes : Bytes}
    (hdecoded : decode? urlSafe cs = some bytes) : encode urlSafe bytes = cs := by
  obtain ⟨ns, hvalues, hbytes⟩ := Option.bind_eq_some_iff.1 hdecoded
  obtain ⟨hlt, hdigits⟩ := map_digit_of_mapM_digitValue? hvalues
  rw [encode_eq_map, sextets_of_decodeDigits? hlt hbytes, hdigits]

theorem dot_not_mem_encode (bytes : Bytes) : '.' ∉ encode urlSafe bytes := by
  rw [encode_eq_map]
  intro hdot
  obtain ⟨n, hn, hdigit⟩ := List.mem_map.1 hdot
  exact digit_ne_dot (lt_of_mem_sextets n hn) hdigit

end Gatehouse.Crypto.Base64
