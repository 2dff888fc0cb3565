import Gatehouse.Crypto.Rsa
import Mathlib.FieldTheory.Finite.Basic

/-!
# Signing and checking with RSA

Numbers of bytes are read back from their bytes, and `power` is the power modulo a number. If the two
exponents of a key undo each other, as they do for every key that was made from two primes in the usual
way, then the key signs each message and its public part accepts the signature.
-/

namespace Gatehouse.Crypto

/-! ## Numbers and their bytes -/

namespace Sha256

theorem length_bigEndian (count n : Nat) : (bigEndian count n).length = count := by
  induction count with
  | zero => rfl
  | succ count ih => rw [bigEndian, List.length_cons, ih]

theorem shiftRight_eq_div (n count : Nat) : n >>> (8 * count) = n / 256 ^ count := by
  have hbyte : 256 = 2 ^ 8 := rfl
  rw [hbyte, ← pow_mul, Nat.shiftRight_eq_div_pow]

/-- The last bytes of a number depend on no higher ones. -/
theorem bigEndian_congr {count n k : Nat} (hsame : n ≡ k [MOD 256 ^ count]) :
    bigEndian count n = bigEndian count k := by
  induction count with
  | zero => rfl
  | succ count ih =>
      rw [pow_succ] at hsame
      have hfirst : n / 256 ^ count % 256 = k / 256 ^ count % 256 := by
        rw [← Nat.mod_mul_right_div_self, ← Nat.mod_mul_right_div_self, hsame]
      rw [bigEndian, bigEndian, shiftRight_eq_div, shiftRight_eq_div, hfirst,
        ih (hsame.of_mul_right 256)]

theorem length_digest (message : Bytes) : (digest message).length = 32 := by
  simp [digest, State.bytes, length_bigEndian]

end Sha256

namespace Der

open Sha256 (bigEndian bigEndian_congr length_bigEndian shiftRight_eq_div)

/-- The first byte counts for as many as all the others together have values. -/
theorem ofBigEndian_cons (b : UInt8) (bytes : Bytes) :
    ofBigEndian (b :: bytes) = b.toNat * 256 ^ bytes.length + ofBigEndian bytes := by
  have hfold (n : Nat) : bytes.foldl (fun n b => 256 * n + b.toNat) n =
      n * 256 ^ bytes.length + ofBigEndian bytes := by
    induction bytes generalizing n with
    | nil => simp [ofBigEndian]
    | cons c bytes ih =>
        rw [ofBigEndian, List.foldl_cons, List.foldl_cons, ih, ih (256 * 0 + c.toNat),
          List.length_cons, pow_succ]
        ring
  rw [ofBigEndian, List.foldl_cons, hfold]
  simp

theorem ofBigEndian_lt (bytes : Bytes) : ofBigEndian bytes < 256 ^ bytes.length := by
  induction bytes with
  | nil => exact Nat.one_pos
  | cons b bytes ih =>
      have hb : b.toNat + 1 ≤ 256 := b.toNat_lt
      calc ofBigEndian (b :: bytes) = b.toNat * 256 ^ bytes.length + ofBigEndian bytes :=
            ofBigEndian_cons b bytes
        _ < b.toNat * 256 ^ bytes.length + 256 ^ bytes.length := Nat.add_lt_add_left ih _
        _ = (b.toNat + 1) * 256 ^ bytes.length := by rw [Nat.add_mul, Nat.one_mul]
        _ ≤ 256 * 256 ^ bytes.length := Nat.mul_le_mul_right _ hb
        _ = 256 ^ (b :: bytes).length := by rw [List.length_cons, pow_succ, Nat.mul_comm]

theorem ofBigEndian_bigEndian (count n : Nat) :
    ofBigEndian (bigEndian count n) = n % 256 ^ count := by
  induction count with
  | zero => exact (Nat.mod_one n).symm
  | succ count ih =>
      have hbyte : (UInt8.ofNat (n >>> (8 * count) % 256)).toNat = n / 256 ^ count % 256 := by
        rw [UInt8.toNat_ofNat', shiftRight_eq_div]
        exact Nat.mod_mod _ _
      rw [bigEndian, ofBigEndian_cons, ih, hbyte, length_bigEndian, pow_succ, Nat.mod_mul]
      ring

/-- Bytes are read back from the number that they give. -/
theorem bigEndian_ofBigEndian (bytes : Bytes) :
    bigEndian bytes.length (ofBigEndian bytes) = bytes := by
  induction bytes with
  | nil => rfl
  | cons b bytes ih =>
      have hlater : ofBigEndian (b :: bytes) ≡ ofBigEndian bytes [MOD 256 ^ bytes.length] := by
        rw [ofBigEndian_cons]
        exact Nat.mul_add_mod' _ _ _
      have hfirst : ofBigEndian (b :: bytes) / 256 ^ bytes.length = b.toNat := by
        rw [ofBigEndian_cons, Nat.mul_comm, Nat.mul_add_div (Nat.pow_pos (by decide)),
          Nat.div_eq_of_lt (ofBigEndian_lt bytes), Nat.add_zero]
      rw [List.length_cons, bigEndian, bigEndian_congr hlater, ih, shiftRight_eq_div, hfirst,
        Nat.mod_eq_of_lt b.toNat_lt, UInt8.ofNat_toNat]

end Der

/-! ## Powers -/

namespace Rsa

/-- Squares are multiplied for as many binary digits as the exponent has. -/
theorem powMod_eq {m fuel b e : Nat} (hfuel : e < 2 ^ fuel) : powMod m fuel b e = b ^ e % m := by
  induction fuel generalizing b e with
  | zero =>
      rw [Nat.lt_one_iff.1 hfuel, pow_zero]
      rfl
  | succ fuel ih =>
      rw [powMod]
      split
      · next hzero => rw [hzero, pow_zero]
      · have hhalf : e / 2 < 2 ^ fuel := by
          rw [pow_succ] at hfuel
          exact Nat.div_lt_of_lt_mul (by rwa [Nat.mul_comm])
        have hsquare : (b * b % m) ^ (e / 2) ≡ b ^ (2 * (e / 2)) [MOD m] := by
          rw [pow_mul, sq]
          exact (Nat.mod_modEq _ _).pow _
        dsimp only
        rw [ih hhalf]
        split
        · next hodd =>
            have hparts : e = 2 * (e / 2) + 1 := by omega
            calc b * ((b * b % m) ^ (e / 2) % m) % m = b * b ^ (2 * (e / 2)) % m :=
                  ((Nat.mod_modEq _ _).trans hsquare).mul_left b
              _ = b ^ (2 * (e / 2) + 1) % m := by rw [pow_succ']
              _ = b ^ e % m := by rw [← hparts]
        · next heven =>
            have hparts : e = 2 * (e / 2) := by omega
            rw [hsquare, ← hparts]

theorem lt_two_pow_bitLength (n : Nat) : n < 2 ^ bitLength n := by
  rw [bitLength]
  split
  · next hzero =>
      rw [hzero]
      exact Nat.one_pos
  · exact Nat.lt_log2_self

theorem power_eq (m b e : Nat) : power m b e = b ^ e % m := by
  rw [power, powMod_eq (lt_two_pow_bitLength e), ← Nat.pow_mod]

/-! ## Padded digests -/

theorem pow_byteLength_le {n : Nat} (hn : n ≠ 0) : 256 ^ (byteLength n - 1) ≤ n := by
  have hbits : 8 * (byteLength n - 1) ≤ n.log2 := by
    rw [byteLength, bitLength, if_neg hn]
    omega
  calc 256 ^ (byteLength n - 1) = 2 ^ (8 * (byteLength n - 1)) := (pow_mul 2 8 _).symm
    _ ≤ 2 ^ n.log2 := Nat.pow_le_pow_right (by decide) hbits
    _ ≤ n := Nat.log2_self_le hn

theorem lt_pow_byteLength (n : Nat) : n < 256 ^ byteLength n := by
  have hbits : bitLength n ≤ 8 * byteLength n := by
    rw [byteLength]
    omega
  calc n < 2 ^ bitLength n := lt_two_pow_bitLength n
    _ ≤ 2 ^ (8 * byteLength n) := Nat.pow_le_pow_right (by decide) hbits
    _ = 256 ^ byteLength n := pow_mul 2 8 _

theorem length_paddedDigest {size : Nat} (hsize : 54 ≤ size) (message : Bytes) :
    (paddedDigest size message).length = size := by
  have htail : (digestMark ++ Sha256.digest message).length = 51 := by
    rw [List.length_append, Sha256.length_digest]
    rfl
  simp only [paddedDigest, htail, List.length_cons, List.length_append, List.length_replicate]
  omega

/-- The zero in front keeps a padded digest below each modulus of its size. -/
theorem ofBigEndian_paddedDigest_lt {n : Nat} (hsize : 54 ≤ byteLength n) (message : Bytes) :
    Der.ofBigEndian (paddedDigest (byteLength n) message) < n := by
  have hn : n ≠ 0 := by
    rintro rfl
    exact absurd hsize (by decide)
  have hlength := length_paddedDigest hsize message
  rw [paddedDigest, List.cons_append] at hlength ⊢
  rw [Der.ofBigEndian_cons, UInt8.toNat_zero, Nat.zero_mul, Nat.zero_add]
  refine Nat.lt_of_lt_of_le (Der.ofBigEndian_lt _) ?_
  rw [Nat.eq_sub_of_add_eq hlength]
  exact pow_byteLength_le hn

/-! ## Signatures -/

theorem PrivateKey.le_byteLength_of_ofDer? {bytes : Bytes} {key : PrivateKey}
    (hread : PrivateKey.ofDer? bytes = some key) : 256 ≤ byteLength key.toPublic.modulus := by
  unfold PrivateKey.ofDer? at hread
  split at hread
  · split at hread
    · next hkey =>
        obtain ⟨-, hsize, -⟩ := hkey
        cases hread
        dsimp only
        rw [byteLength]
        omega
    · cases hread
  · cases hread

/-- The exponents of a key undo each other: its modulus has two prime factors, and the product of the
exponents is one more than a multiple of what both factors less one divide. -/
def PrivateKey.IsSound (key : PrivateKey) : Prop :=
  ∃ p q, p.Prime ∧ q.Prime ∧ p ≠ q ∧ p * q = key.toPublic.modulus ∧
    ∃ k, key.exponent * key.toPublic.exponent = (p - 1).lcm (q - 1) * k + 1

theorem pow_modEq_self {p k : Nat} (hp : p.Prime) (hk : p - 1 ∣ k) (x : Nat) :
    x ^ (k + 1) ≡ x [MOD p] := by
  have hpow := Int.ModEq.pow_eq_pow hp (x := k + 1) (by simpa using hk) (Nat.le_add_left 1 k)
    Nat.one_pos x
  rw [← Int.natCast_modEq_iff, Nat.cast_pow]
  simpa using hpow

/-- What one exponent of a key does is undone by the other. -/
theorem PrivateKey.IsSound.pow_pow {key : PrivateKey} (hsound : key.IsSound) {x : Nat}
    (hx : x < key.toPublic.modulus) :
    (x ^ key.exponent % key.toPublic.modulus) ^ key.toPublic.exponent % key.toPublic.modulus = x := by
  obtain ⟨p, q, hp, hq, hne, hmodulus, k, hexponents⟩ := hsound
  have hcoprime : p.Coprime q := (Nat.coprime_primes hp hq).2 hne
  have hback : x ^ (key.exponent * key.toPublic.exponent) ≡ x [MOD p * q] := by
    rw [hexponents]
    refine (Nat.modEq_and_modEq_iff_modEq_mul hcoprime).1 ⟨?_, ?_⟩
    · exact pow_modEq_self hp (dvd_mul_of_dvd_left (Nat.dvd_lcm_left _ _) k) x
    · exact pow_modEq_self hq (dvd_mul_of_dvd_left (Nat.dvd_lcm_right _ _) k) x
  rw [hmodulus, pow_mul] at hback
  rw [← Nat.pow_mod, hback, Nat.mod_eq_of_lt hx]

/-- A sound key signs each message, and its public part accepts the signature. -/
theorem PrivateKey.IsSound.exists_sign?_eq_some {key : PrivateKey} (hsound : key.IsSound)
    (hsize : 54 ≤ byteLength key.toPublic.modulus) (message : Bytes) :
    ∃ signature, key.sign? message = some signature ∧
      key.toPublic.verifies message signature = true := by
  have hdigest := ofBigEndian_paddedDigest_lt hsize message
  have hlength := length_paddedDigest hsize message
  have hpositive : 0 < key.toPublic.modulus := Nat.lt_of_le_of_lt (Nat.zero_le _) hdigest
  obtain ⟨digest, hpadded⟩ : ∃ digest, digest =
      Der.ofBigEndian (paddedDigest (byteLength key.toPublic.modulus) message) := ⟨_, rfl⟩
  rw [← hpadded] at hdigest
  have hbelow : digest ^ key.exponent % key.toPublic.modulus < key.toPublic.modulus :=
    Nat.mod_lt _ hpositive
  have hread : Der.ofBigEndian (Sha256.bigEndian (byteLength key.toPublic.modulus)
      (digest ^ key.exponent % key.toPublic.modulus)) =
        digest ^ key.exponent % key.toPublic.modulus := by
    rw [Der.ofBigEndian_bigEndian]
    exact Nat.mod_eq_of_lt (hbelow.trans (lt_pow_byteLength _))
  have hback : Sha256.bigEndian (byteLength key.toPublic.modulus) digest =
      paddedDigest (byteLength key.toPublic.modulus) message := by
    have hbytes := Der.bigEndian_ofBigEndian
      (paddedDigest (byteLength key.toPublic.modulus) message)
    rwa [hlength, ← hpadded] at hbytes
  have hverifies : key.toPublic.verifies message (Sha256.bigEndian
      (byteLength key.toPublic.modulus) (digest ^ key.exponent % key.toPublic.modulus)) = true := by
    simp only [PublicKey.verifies, Sha256.length_bigEndian, hread, power_eq, hsound.pow_pow hdigest,
      hback, hbelow, decide_true, Bool.and_self]
  refine ⟨_, ?_, hverifies⟩
  simp only [PrivateKey.sign?, ← hpadded, power_eq]
  rw [if_pos hverifies]

end Rsa

end Gatehouse.Crypto
