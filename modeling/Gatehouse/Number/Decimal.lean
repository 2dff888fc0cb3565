/-!
# Decimal numerals

Reading and writing whole numbers in base ten.
-/

namespace Gatehouse.Number

/-- The value of a decimal digit, zero for any other character. -/
def digitValue (c : Char) : Nat := c.toNat - '0'.toNat

/-- The number that a run of decimal digits stands for. -/
def ofDigits (cs : List Char) : Nat :=
  cs.foldl (fun n c => 10 * n + digitValue c) 0

/-- The decimal digits of a number, without leading zeros. -/
def digits (n : Nat) : List Char :=
  Nat.toDigits 10 n

/-- A whole number with a minus sign when it is negative. -/
def signed : Int → List Char
  | .ofNat n => digits n
  | .negSucc n => '-' :: digits (n + 1)

/-- Read a nonempty run of decimal digits. -/
def natural? (cs : List Char) : Option Nat :=
  if cs ≠ [] ∧ cs.all Char.isDigit then some (ofDigits cs) else none

/-- Read decimal digits after an optional plus sign. -/
def unsigned? : List Char → Option Nat
  | '+' :: cs => natural? cs
  | cs => natural? cs

/-- Read decimal digits after an optional sign. -/
def integer? : List Char → Option Int
  | '-' :: cs => (natural? cs).map fun n => -(n : Int)
  | cs => (unsigned? cs).map Int.ofNat

/-- A number as an unsigned word, if it is in range. -/
def toUInt64? (n : Int) : Option UInt64 :=
  if 0 ≤ n ∧ n < UInt64.size then some (UInt64.ofNat n.toNat) else none

/-- A number as a signed word, if it is in range. -/
def toInt64? (n : Int) : Option Int64 :=
  if Int64.minValue.toInt ≤ n ∧ n ≤ Int64.maxValue.toInt then some (Int64.ofInt n) else none

theorem isDigit_of_mem_digits {n : Nat} {c : Char} (hc : c ∈ digits n) : c.isDigit = true :=
  Nat.isDigit_of_mem_toDigits (by decide) (by decide) hc

theorem exists_digits_eq_cons (n : Nat) : ∃ c cs, digits n = c :: cs ∧ c.isDigit = true := by
  have hne : digits n ≠ [] := Nat.toDigits_ne_nil
  obtain ⟨c, cs, hdigits⟩ := List.exists_cons_of_ne_nil hne
  have hmem : c ∈ digits n := by
    rw [hdigits]
    exact List.mem_cons_self
  exact ⟨c, cs, hdigits, isDigit_of_mem_digits hmem⟩

theorem ofDigits_digits (n : Nat) : ofDigits (digits n) = n :=
  Nat.ofDigitChars_ten_toDigits

/-- The digits of a number begin with a zero only if the number is zero. -/
theorem digits_eq_zero_or_cons (n : Nat) :
    n = 0 ∧ digits n = ['0'] ∨ ∃ c cs, digits n = c :: cs ∧ c ≠ '0' := by
  induction n using Nat.strongRecOn with
  | ind n ih =>
      rw [digits, Nat.toDigits_eq_if (by decide)]
      split
      · next hsmall =>
          rcases Nat.eq_zero_or_pos n with rfl | hpos
          · exact .inl ⟨rfl, rfl⟩
          · have hdigit : ∀ d < 10, 0 < d → Nat.digitChar d ≠ '0' := by decide
            exact .inr ⟨_, _, rfl, hdigit n hsmall hpos⟩
      · next hlarge =>
          rcases ih (n / 10) (Nat.div_lt_self (by omega) (by decide)) with ⟨hzero, -⟩ | hcons
          · omega
          · obtain ⟨c, cs, hdigits, hc⟩ := hcons
            rw [digits] at hdigits
            exact .inr ⟨c, cs ++ [Nat.digitChar (n % 10)], by rw [hdigits]; rfl, hc⟩

@[simp] theorem toInt64?_toInt (n : Int64) : toInt64? n.toInt = some n := by
  rw [toInt64?, if_pos ⟨n.minValue_le_toInt, n.toInt_le⟩, Int64.ofInt_toInt]

theorem toInt64?_eq_some_iff {n : Int} {word : Int64} :
    toInt64? n = some word ↔ word.toInt = n := by
  constructor
  · intro hword
    unfold toInt64? at hword
    split at hword
    · next hrange =>
        cases hword
        rw [Int64.toInt_minValue, Int64.toInt_maxValue] at hrange
        exact Int64.toInt_ofInt_of_le hrange.1 (by omega)
    · cases hword
  · rintro rfl
    exact toInt64?_toInt word

end Gatehouse.Number
