import Gatehouse.Proofs.Config.Fields
import Gatehouse.Proofs.Text.LetterCase
import Mathlib.Data.List.Induction
import Mathlib.Data.Nat.Digits.Defs

/-!
# What the texts of variables stand for

A number is written as decimal digits after an optional sign, and is read exactly when the word of its
field holds it: nothing is cut off or wrapped around. Names are read in any letter case. Blanks around
either do not count.
-/

namespace Gatehouse

namespace Number

/-! ## Numerals -/

/-- Decimal digits and the number that they stand for, the last one counting its own value. -/
structure Digits (cs : List Char) (n : Nat) : Prop where
  nonempty : cs ≠ []
  digits : ∀ c ∈ cs, c.isDigit = true
  value : Nat.ofDigits 10 (cs.reverse.map digitValue) = n

/-- Digits after an optional sign, which is a minus sign only where numbers have a sign. -/
inductive Numeral (isSigned : Bool) : List Char → Int → Prop
  | plain {cs : List Char} {n : Nat} (hdigits : Digits cs n) : Numeral isSigned cs n
  | plus {cs : List Char} {n : Nat} (hdigits : Digits cs n) : Numeral isSigned ('+' :: cs) n
  | minus {cs : List Char} {n : Nat} (hsigned : isSigned = true) (hdigits : Digits cs n) :
      Numeral isSigned ('-' :: cs) (-n)

theorem ofDigits_eq (cs : List Char) : ofDigits cs = Nat.ofDigits 10 (cs.reverse.map digitValue) := by
  induction cs using List.reverseRecOn with
  | nil => rfl
  | append_singleton cs c ih =>
      have hlast : ofDigits (cs ++ [c]) = 10 * ofDigits cs + digitValue c := by
        rw [ofDigits, List.foldl_append]
        rfl
      rw [hlast, ih, List.reverse_append, List.reverse_singleton, List.singleton_append, List.map_cons,
        Nat.ofDigits_cons, Nat.add_comm]

theorem natural?_eq_some_iff {cs : List Char} {n : Nat} : natural? cs = some n ↔ Digits cs n := by
  rw [natural?, ofDigits_eq, Option.ite_none_right_eq_some, List.all_eq_true, Option.some.injEq]
  constructor
  · rintro ⟨⟨hne, hdigits⟩, hvalue⟩
    exact ⟨hne, hdigits, hvalue⟩
  · rintro ⟨hne, hdigits, hvalue⟩
    exact ⟨⟨hne, hdigits⟩, hvalue⟩

theorem not_digits_cons {c : Char} (hc : c.isDigit = false) (cs : List Char) (n : Nat) :
    ¬Digits (c :: cs) n := by
  intro hdigits
  have hdigit := hdigits.digits c List.mem_cons_self
  rw [hc] at hdigit
  cases hdigit

theorem unsigned?_eq_some_iff {cs : List Char} {n : Nat} :
    unsigned? cs = some n ↔ Numeral false cs n := by
  unfold unsigned?
  constructor
  · intro hread
    split at hread
    · exact .plus (natural?_eq_some_iff.1 hread)
    · exact .plain (natural?_eq_some_iff.1 hread)
  · intro hnumeral
    generalize hm : (n : Int) = m at hnumeral
    cases hnumeral with
    | plain hdigits =>
        cases Int.ofNat.inj hm
        split
        · exact absurd hdigits (not_digits_cons rfl _ _)
        · exact natural?_eq_some_iff.2 hdigits
    | plus hdigits =>
        cases Int.ofNat.inj hm
        exact natural?_eq_some_iff.2 hdigits
    | minus hsigned => cases hsigned

/-- What stands for an unsigned number stands for it where numbers have a sign. -/
theorem Numeral.signed {cs : List Char} {n : Int} (hnumeral : Numeral false cs n) : Numeral true cs n := by
  cases hnumeral with
  | plain hdigits => exact .plain hdigits
  | plus hdigits => exact .plus hdigits
  | minus hsigned => cases hsigned

theorem integer?_minus (cs : List Char) :
    integer? ('-' :: cs) = Option.map (fun n : Nat => -(n : Int)) (natural? cs) := by
  rw [integer?]
  cases natural? cs <;> rfl

/-- Without a minus sign the numerals are those of unsigned numbers. -/
theorem integer?_of_not_minus {cs : List Char} (hminus : ∀ rest, cs ≠ '-' :: rest) :
    integer? cs = (unsigned? cs).map Int.ofNat := by
  unfold integer?
  split
  · exact absurd rfl (hminus _)
  · rfl

theorem integer?_eq_some_iff {cs : List Char} {n : Int} : integer? cs = some n ↔ Numeral true cs n := by
  by_cases hminus : ∃ rest, cs = '-' :: rest
  · obtain ⟨rest, rfl⟩ := hminus
    simp only [integer?_minus, Option.map_eq_some_iff, natural?_eq_some_iff]
    constructor
    · rintro ⟨m, hdigits, rfl⟩
      exact .minus rfl hdigits
    · intro hnumeral
      cases hnumeral with
      | plain hdigits => exact absurd hdigits (not_digits_cons rfl _ _)
      | minus _ hdigits => exact ⟨_, hdigits, rfl⟩
  · have hother : ∀ rest, cs ≠ '-' :: rest := fun rest hsame => hminus ⟨rest, hsame⟩
    simp only [integer?_of_not_minus hother, Option.map_eq_some_iff, unsigned?_eq_some_iff]
    constructor
    · rintro ⟨m, hnumeral, rfl⟩
      exact hnumeral.signed
    · intro hnumeral
      cases hnumeral with
      | plain hdigits => exact ⟨_, .plain hdigits, rfl⟩
      | plus hdigits => exact ⟨_, .plus hdigits, rfl⟩
      | minus => exact absurd rfl (hother _)

theorem toUInt64?_eq_some_iff {n : Int} {word : UInt64} :
    toUInt64? n = some word ↔ (word.toNat : Int) = n := by
  constructor
  · intro hword
    obtain ⟨⟨hlow, hhigh⟩, hsame⟩ := Option.ite_none_right_eq_some.1 hword
    obtain ⟨m, rfl⟩ := Int.eq_ofNat_of_zero_le hlow
    cases hsame
    have hsize : m < UInt64.size := Int.ofNat_lt.1 hhigh
    exact congrArg Int.ofNat (UInt64.toNat_ofNat_of_lt hsize)
  · rintro rfl
    exact Config.Field.toUInt64?_toNat word

end Number

/-! ## Letter case -/

namespace Text

/-- Two texts differ in letter case only, whichever case is made of both. -/
theorem upperAscii_eq_iff {a b : String} : upperAscii a = upperAscii b ↔ lowerAscii a = lowerAscii b := by
  have hmap (f g : Char → Char) (hfg : ∀ c, g (f c) = g c)
      (hsame : String.ofList (a.toList.map f) = String.ofList (b.toList.map f)) :
      String.ofList (a.toList.map g) = String.ofList (b.toList.map g) := by
    have hlists := congrArg (List.map g) (String.ofList_injective hsame)
    rw [List.map_map, List.map_map, (funext hfg : g ∘ f = g)] at hlists
    exact congrArg String.ofList hlists
  constructor
  · exact hmap Char.toUpper Char.toLower toLower_toUpper
  · exact hmap Char.toLower Char.toUpper toUpper_toLower

end Text

/-! ## Variables -/

namespace Config

open Token (Algorithm)

/-- A text stands for an unsigned word. -/
def MeansUInt64 (text : String) (n : UInt64) : Prop :=
  Number.Numeral false (Text.trim text).toList n.toNat

/-- A text stands for a signed word. -/
def MeansInt64 (text : String) (n : Int64) : Prop :=
  Number.Numeral true (Text.trim text).toList n.toInt

/-- A text is the name of an algorithm, in any letter case. -/
def MeansAlgorithm (text : String) (algorithm : Algorithm) : Prop :=
  Text.lowerAscii (Text.trim text) = Text.lowerAscii algorithm.name

/-- A text is the name of a log format, in any letter case. -/
def MeansLogFormat (text : String) (format : LogFormat) : Prop :=
  Text.lowerAscii (Text.trim text) = Text.lowerAscii format.name

theorem envUInt64?_eq_some_iff {text : String} {n : UInt64} :
    envUInt64? text = some n ↔ MeansUInt64 text n := by
  rw [envUInt64?, Option.bind_eq_some_iff, MeansUInt64]
  simp only [Number.toUInt64?_eq_some_iff, Number.unsigned?_eq_some_iff]
  constructor
  · rintro ⟨m, hread, hsame⟩
    exact hsame ▸ hread
  · intro hread
    exact ⟨n.toNat, hread, rfl⟩

theorem envInt64?_eq_some_iff {text : String} {n : Int64} :
    envInt64? text = some n ↔ MeansInt64 text n := by
  rw [envInt64?, Option.bind_eq_some_iff, MeansInt64]
  simp only [Number.toInt64?_eq_some_iff, Number.integer?_eq_some_iff]
  constructor
  · rintro ⟨m, hread, hsame⟩
    exact hsame ▸ hread
  · intro hread
    exact ⟨n.toInt, hread, rfl⟩

theorem ofName?_eq_some_iff {text : String} {algorithm : Algorithm} :
    Algorithm.ofName? text = some algorithm ↔ MeansAlgorithm text algorithm := by
  have hcapital : ∀ a : Algorithm, Text.upperAscii a.name = a.name := by
    intro a
    cases a <;> decide
  rw [MeansAlgorithm, ← Text.upperAscii_eq_iff, hcapital]
  unfold Algorithm.ofName?
  dsimp only
  split_ifs with hs rs
  · rw [hs]
    cases algorithm <;> decide
  · rw [rs]
    cases algorithm <;> decide
  · cases algorithm with
    | hs256 => exact iff_of_false nofun hs
    | rs256 => exact iff_of_false nofun rs

theorem envLogFormat?_eq_some_iff {text : String} {format : LogFormat} :
    envLogFormat? text = some format ↔ MeansLogFormat text format := by
  have hsmall : ∀ f : LogFormat, Text.lowerAscii f.name = f.name := by
    intro f
    cases f <;> decide
  rw [MeansLogFormat, hsmall]
  unfold envLogFormat?
  dsimp only
  constructor
  · intro hfound
    have hname := List.find?_some hfound
    rw [decide_eq_true_eq] at hname
    exact hname.symm
  · intro hname
    rw [hname]
    cases format with
    | json => rfl
    | pretty => rfl

end Config

end Gatehouse
