/-!
# Letter case

What makes letters small or large changes ASCII letters only, and undoes what the other did.
-/

namespace Gatehouse.Text

/-- Large letters are moved, and nothing else is. -/
theorem toNat_toLower (c : Char) :
    c.toLower.toNat = if 65 ≤ c.toNat ∧ c.toNat ≤ 90 then c.toNat + 32 else c.toNat := by
  unfold Char.toLower
  split
  · next hlarge =>
      have hbounds : 65 ≤ c.toNat ∧ c.toNat ≤ 90 := hlarge
      rw [if_pos hbounds]
      change (c.val + 32).toNat = c.toNat + 32
      rw [UInt32.toNat_add]
      exact Nat.mod_eq_of_lt (Nat.lt_of_le_of_lt (Nat.add_le_add_right hbounds.2 32) (by decide))
  · next hother => exact (if_neg hother).symm

/-- Small letters are moved, and nothing else is. -/
theorem toNat_toUpper (c : Char) :
    c.toUpper.toNat = if 97 ≤ c.toNat ∧ c.toNat ≤ 122 then c.toNat - 32 else c.toNat := by
  unfold Char.toUpper
  split
  · next hsmall =>
      have hbounds : 97 ≤ c.toNat ∧ c.toNat ≤ 122 := hsmall
      rw [if_pos hbounds]
      change (c.val + ('A'.val - 'a'.val)).toNat = c.toNat - 32
      have hback : ('A'.val - 'a'.val).toNat = 4294967264 := rfl
      rw [UInt32.toNat_add, hback]
      change (c.toNat + 4294967264) % 4294967296 = c.toNat - 32
      omega
  · next hother => exact (if_neg hother).symm

theorem toLower_toLower (c : Char) : c.toLower.toLower = c.toLower := by
  refine Char.toNat_inj.1 ?_
  simp only [toNat_toLower]
  grind

theorem toLower_toUpper (c : Char) : c.toUpper.toLower = c.toLower := by
  refine Char.toNat_inj.1 ?_
  simp only [toNat_toLower, toNat_toUpper]
  grind

theorem toUpper_toLower (c : Char) : c.toLower.toUpper = c.toUpper := by
  refine Char.toNat_inj.1 ?_
  simp only [toNat_toLower, toNat_toUpper]
  grind

end Gatehouse.Text
