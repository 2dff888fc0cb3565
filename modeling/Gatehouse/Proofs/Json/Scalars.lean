import Gatehouse.Json.Parser
import Gatehouse.Json.Printer

/-!
# Strings and whole numbers through their JSON text

Strings are read back character by character, whole numbers digit by digit. What follows a number must
not look like more of it: `EndsNumber` says so of the rest of a text.
-/

namespace Gatehouse.Json

/-! ## Strings -/

/-- One code point that is no half of a pair, escaped as a number. -/
theorem stringBody_unit {a b c d : Char} {unit : Nat} (hhex : hex4? a b c d = some unit)
    (hunit : unit < 0xD800) (rest : List Char) :
    stringBody ('\\' :: 'u' :: a :: b :: c :: d :: rest) =
      (stringBody rest).map fun (cs, left) => (Char.ofNat unit :: cs, left) := by
  rw [stringBody.eq_def]
  split
  · next h => cases h
  · next h => cases h
  · -- The text goes on like another half; the first one needs none.
    next h =>
      cases h
      rw [hhex]
      dsimp only
      rw [if_neg (by omega), if_neg (by omega)]
  · next h =>
      cases h
      rw [hhex]
      dsimp only
      rw [if_neg (by omega)]
  · next hlonger hshorter h =>
      cases h
      exact absurd rfl (hshorter _ _ _ _ _ rfl)
  · next hescape h =>
      cases h
      exact absurd rfl (hescape _ _ rfl)

/-- An escape of one letter. -/
theorem stringBody_escape {letter c : Char} (hescaped : escaped? letter = some c)
    (hletter : letter ≠ 'u') (rest : List Char) :
    stringBody ('\\' :: letter :: rest) =
      (stringBody rest).map fun (cs, left) => (c :: cs, left) := by
  rw [stringBody.eq_def]
  split
  · next h => cases h
  · next h => cases h
  · next h =>
      cases h
      exact absurd rfl hletter
  · next h =>
      cases h
      exact absurd rfl hletter
  · next h =>
      cases h
      rw [hescaped]
  · next hescape h =>
      cases h
      exact absurd rfl (hescape _ _ rfl)

/-- A character that stands for itself. -/
theorem stringBody_plain {c : Char} (hquote : c ≠ '"') (hbackslash : c ≠ '\\')
    (hprintable : ¬c.toNat < 0x20) (rest : List Char) :
    stringBody (c :: rest) = (stringBody rest).map fun (cs, left) => (c :: cs, left) := by
  rw [stringBody.eq_def]
  split
  · next h => cases h
  · next h =>
      cases h
      exact absurd rfl hquote
  · next h =>
      cases h
      exact absurd rfl hbackslash
  · next h =>
      cases h
      exact absurd rfl hbackslash
  · next h =>
      cases h
      exact absurd rfl hbackslash
  · next h =>
      cases h
      rw [if_neg hprintable]

/-- A character is escaped by a letter or by its number, or stands for itself. -/
theorem escapeChar_cases (c : Char) :
    (∃ letter, escapeChar c = ['\\', letter] ∧ escaped? letter = some c ∧ letter ≠ 'u') ∨
      (c.toNat < 0x20 ∧ escapeChar c =
        ['\\', 'u', '0', '0', Nat.digitChar (c.toNat / 16), Nat.digitChar (c.toNat % 16)]) ∨
      (escapeChar c = [c] ∧ c ≠ '"' ∧ c ≠ '\\' ∧ ¬c.toNat < 0x20) := by
  by_cases hletter : c ∈ ['"', '\\', '\x08', '\x0c', '\n', '\r', '\t']
  · left
    simp only [List.mem_cons, List.not_mem_nil, or_false] at hletter
    rcases hletter with rfl | rfl | rfl | rfl | rfl | rfl | rfl <;>
      exact ⟨_, rfl, rfl, by decide⟩
  · simp only [List.mem_cons, List.not_mem_nil, or_false, not_or] at hletter
    obtain ⟨hquote, hbackslash, hback, hfeed, hline, hreturn, htab⟩ := hletter
    right
    by_cases hcontrol : c.toNat < 0x20
    · left
      exact ⟨hcontrol, by simp [escapeChar, *]⟩
    · right
      exact ⟨by simp [escapeChar, *], hquote, hbackslash, hcontrol⟩

/-- The number of a control character, written with two digits and read with four. -/
theorem hex4?_control {n : Nat} (hn : n < 0x20) :
    hex4? '0' '0' (Nat.digitChar (n / 16)) (Nat.digitChar (n % 16)) = some n := by
  revert n
  decide

/-- Every character is read back from its written form. -/
theorem stringBody_escapeChar (c : Char) (rest : List Char) :
    stringBody (escapeChar c ++ rest) =
      (stringBody rest).map fun (cs, left) => (c :: cs, left) := by
  rcases escapeChar_cases c with
    ⟨letter, hwritten, hescaped, hletter⟩ | ⟨hcontrol, hwritten⟩ | ⟨hwritten, hquote, hbackslash, hc⟩
  · rw [hwritten]
    exact stringBody_escape hescaped hletter rest
  · have hunit := stringBody_unit (hex4?_control hcontrol) (by omega) rest
    rw [Char.ofNat_toNat] at hunit
    rw [hwritten]
    exact hunit
  · rw [hwritten]
    exact stringBody_plain hquote hbackslash hc rest

theorem stringBody_flatMap (cs rest : List Char) :
    stringBody (cs.flatMap escapeChar ++ '"' :: rest) = some (cs, rest) := by
  induction cs with
  | nil =>
      rw [List.flatMap_nil, List.nil_append, stringBody]
  | cons c cs ih =>
      rw [List.flatMap_cons, List.append_assoc, stringBody_escapeChar, ih]
      rfl

theorem printString_append (s : String) (more : List Char) :
    printString s ++ more = '"' :: (s.toList.flatMap escapeChar ++ '"' :: more) := by
  simp [printString]

/-! ## Whole numbers -/

/-- A character that does not go on with a number. -/
def isNumberEnd (c : Char) : Bool := !c.isDigit && c ≠ '.' && c ≠ 'e' && c ≠ 'E'

/-- The text does not go on with a number before it. -/
def EndsNumber (rest : List Char) : Prop := ∀ c, rest.head? = some c → isNumberEnd c = true

theorem isDigit_of_isNumberEnd {c : Char} (hc : isNumberEnd c = true) : c.isDigit = false := by
  simp only [isNumberEnd, Bool.and_eq_true, Bool.not_eq_true'] at hc
  exact hc.1.1.1

theorem endsNumber_nil : EndsNumber [] := by
  intro c hc
  cases hc

theorem endsNumber_cons {c : Char} (hc : isNumberEnd c = true) (rest : List Char) :
    EndsNumber (c :: rest) := by
  intro d hd
  cases hd
  exact hc

theorem EndsNumber.takeWhile_eq {rest : List Char} (hrest : EndsNumber rest) :
    rest.takeWhile Char.isDigit = [] := by
  cases rest with
  | nil => rfl
  | cons c rest =>
      have hc := isDigit_of_isNumberEnd (hrest c rfl)
      rw [List.takeWhile_cons_of_neg (by simp [hc])]

theorem EndsNumber.dropWhile_eq {rest : List Char} (hrest : EndsNumber rest) :
    rest.dropWhile Char.isDigit = rest := by
  cases rest with
  | nil => rfl
  | cons c rest =>
      have hc := isDigit_of_isNumberEnd (hrest c rfl)
      rw [List.dropWhile_cons_of_neg (by simp [hc])]

/-- Further digits make a number no smaller. -/
theorem le_ofDigitChars (cs : List Char) (n : Nat) : n ≤ Nat.ofDigitChars 10 cs n := by
  induction cs generalizing n with
  | nil => exact Nat.le_of_eq Nat.ofDigitChars_nil.symm
  | cons c cs ih =>
      rw [Nat.ofDigitChars_cons]
      have hle := ih (10 * n + (c.toNat - '0'.toNat))
      omega

/-- Digits are taken for as long as there are any, if their number fits. -/
theorem takeDigits_append {cs rest : List Char} (hdigits : ∀ c ∈ cs, c.isDigit = true)
    (hrest : EndsNumber rest) {n : Nat} (hfits : Nat.ofDigitChars 10 cs n < UInt64.size) :
    takeDigits n (cs ++ rest) = (Nat.ofDigitChars 10 cs n, rest) := by
  induction cs generalizing n with
  | nil =>
      rw [Nat.ofDigitChars_nil, List.nil_append]
      cases rest with
      | nil => rfl
      | cons c rest =>
          have hc := isDigit_of_isNumberEnd (hrest c rfl)
          rw [takeDigits, if_neg (by simp [hc])]
  | cons c cs ih =>
      obtain ⟨hc, hcs⟩ := List.forall_mem_cons.1 hdigits
      rw [Nat.ofDigitChars_cons] at hfits ⊢
      have hle := le_ofDigitChars cs (10 * n + (c.toNat - '0'.toNat))
      have hfitsHere : 10 * n + Number.digitValue c < UInt64.size := Nat.lt_of_le_of_lt hle hfits
      rw [List.cons_append, takeDigits, if_pos ⟨hc, hfitsHere⟩]
      exact ih hcs hfits

theorem firstDigits_digits {n : Nat} (hn : n < UInt64.size) {rest : List Char}
    (hrest : EndsNumber rest) : firstDigits (Number.digits n ++ rest) = some (n, rest) := by
  rcases Number.digits_eq_zero_or_cons n with ⟨rfl, hdigits⟩ | ⟨c, cs, hdigits, hzero⟩
  · rw [hdigits]
    cases rest with
    | nil => rfl
    | cons c rest =>
        have hc := isDigit_of_isNumberEnd (hrest c rfl)
        rw [List.singleton_append, firstDigits, List.head?_cons, Option.map_some, hc]
        rfl
  · have hall : ∀ d ∈ c :: cs, d.isDigit = true := by
      rw [← hdigits]
      exact fun d hd => Number.isDigit_of_mem_digits hd
    obtain ⟨hc, hcs⟩ := List.forall_mem_cons.1 hall
    have hvalue : Nat.ofDigitChars 10 cs (Number.digitValue c) = n := by
      have hread := Number.ofDigits_digits n
      rw [hdigits] at hread
      simpa [Number.ofDigits, Nat.ofDigitChars_eq_foldl, Number.digitValue] using hread
    rw [hdigits, List.cons_append, firstDigits]
    · rw [if_pos hc, takeDigits_append hcs hrest (by rw [hvalue]; exact hn), hvalue]
    · exact hzero

/-- Behind the last digit of a whole number nothing more is read. -/
theorem numberFrom_of_endsNumber (isNegative : Bool) (n : Nat) {rest : List Char}
    (hrest : EndsNumber rest) :
    numberFrom isNegative n rest =
      if isNegative then
        if n = 0 ∨ UInt64.size / 2 < n then some (floatOf true n 0, rest) else some (.int (-n), rest)
      else some (.int n, rest) := by
  rw [numberFrom, hrest.takeWhile_eq, hrest.dropWhile_eq]
  split
  · cases hrest '.' rfl
  · cases hrest 'e' rfl
  · cases hrest 'E' rfl
  · rw [if_neg (not_not_intro rfl)]

theorem unsignedNumber_digits (isNegative : Bool) {n : Nat} (hn : n < UInt64.size) {rest : List Char}
    (hrest : EndsNumber rest) :
    unsignedNumber isNegative (Number.digits n ++ rest) =
      if isNegative then
        if n = 0 ∨ UInt64.size / 2 < n then some (floatOf true n 0, rest) else some (.int (-n), rest)
      else some (.int n, rest) := by
  rw [unsignedNumber, firstDigits_digits hn hrest, Option.bind_some]
  exact numberFrom_of_endsNumber isNegative n hrest

/-- A whole number in the range of the two kinds of 64-bit words is read back. -/
theorem number_signed {n : Int} (hlow : Int64.minValue.toInt ≤ n) (hhigh : n < UInt64.size)
    {rest : List Char} (hrest : EndsNumber rest) :
    number (Number.signed n ++ rest) = some (.int n, rest) := by
  have hsize : UInt64.size = 0x10000000000000000 := rfl
  rw [Int64.toInt_minValue] at hlow
  cases n with
  | ofNat n =>
      have hfits : n < UInt64.size := by
        rw [Int.ofNat_eq_natCast] at hhigh
        omega
      have hread := unsignedNumber_digits false hfits hrest
      obtain ⟨c, cs, hdigits, hc⟩ := Number.exists_digits_eq_cons n
      rw [hdigits, List.cons_append] at hread
      rw [Number.signed, hdigits, List.cons_append, number]
      · exact hread
      · -- A digit is no minus sign.
        intro tail hminus
        cases hminus
        exact absurd hc (by decide)
  | negSucc n =>
      have hfits : n + 1 < UInt64.size := by omega
      have hread := unsignedNumber_digits true hfits hrest
      rw [if_pos rfl, if_neg (by omega)] at hread
      rw [Number.signed, List.cons_append, number]
      exact hread

end Gatehouse.Json
