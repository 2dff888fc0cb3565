import Gatehouse.Text.Blank
import Mathlib.Data.List.TakeWhile

/-!
# Blank texts

Nothing is left of a blank text when it is trimmed, and of no other one. A text that begins with a
part to keep loses something behind that part only. What is left of a text stands between two runs of
blanks and has none at its ends, and nothing else has both.
-/

namespace Gatehouse.Text

theorem stripWhile_eq_nil_iff {p : Char → Bool} {cs : List Char} :
    stripWhile p cs = [] ↔ ∀ c ∈ cs, p c = true := by
  rw [stripWhile, dropEndWhile, List.reverse_eq_nil_iff, List.dropWhile_eq_nil_iff]
  constructor
  · intro hrest
    refine List.dropWhile_eq_nil_iff.1 ?_
    cases hkept : cs.dropWhile p with
    | nil => rfl
    | cons c rest =>
        -- What is kept from the left begins with a character that does not satisfy `p`.
        have hfirst := List.head?_dropWhile_not p cs
        rw [hkept] at hfirst hrest
        have hdropped : p c = true := hrest c (by simp)
        simp [hdropped] at hfirst
  · intro hall c hc
    exact hall c ((List.dropWhile_sublist p).subset (List.mem_reverse.1 hc))

theorem trim_eq_empty_iff {s : String} : trim s = "" ↔ blank s = true := by
  have hempty : trim s = "" ↔ stripWhile isBlank s.toList = [] := by
    rw [trim, ← String.ofList_nil, String.ofList_inj]
  rw [hempty, stripWhile_eq_nil_iff, blank, List.all_eq_true]

theorem dropEndWhile_sublist (p : Char → Bool) (cs : List Char) :
    (dropEndWhile p cs).Sublist cs := by
  have hsub := (List.dropWhile_sublist p (l := cs.reverse)).reverse
  rwa [List.reverse_reverse] at hsub

theorem stripWhile_sublist (p : Char → Bool) (cs : List Char) : (stripWhile p cs).Sublist cs :=
  (dropEndWhile_sublist p _).trans (List.dropWhile_sublist p)

/-! ## Runs of characters before a part to keep -/

theorem takeWhile_append_cons {p : Char → Bool} {c : Char} (hc : p c = false)
    (cs rest : List Char) : (cs ++ c :: rest).takeWhile p = cs.takeWhile p := by
  induction cs with
  | nil => rw [List.nil_append, List.takeWhile_cons_of_neg (by simp [hc]), List.takeWhile_nil]
  | cons d cs ih => rw [List.cons_append, List.takeWhile_cons, List.takeWhile_cons, ih]

theorem dropWhile_append_cons {p : Char → Bool} {c : Char} (hc : p c = false)
    (cs rest : List Char) : (cs ++ c :: rest).dropWhile p = cs.dropWhile p ++ c :: rest := by
  induction cs with
  | nil =>
      rw [List.nil_append, List.dropWhile_cons_of_neg (by simp [hc]), List.dropWhile_nil,
        List.nil_append]
  | cons d cs ih =>
      rw [List.cons_append, List.dropWhile_cons, List.dropWhile_cons]
      split
      · exact ih
      · rfl

/-- Nothing is dropped from the end of a text before a character that is kept. -/
theorem dropEndWhile_append_cons {p : Char → Bool} {c : Char} (hc : p c = false)
    (cs rest : List Char) : dropEndWhile p (cs ++ c :: rest) = cs ++ c :: dropEndWhile p rest := by
  rw [dropEndWhile, dropEndWhile, List.reverse_append, List.reverse_cons, List.append_assoc,
    List.singleton_append, dropWhile_append_cons hc, List.reverse_append, List.reverse_cons,
    List.reverse_reverse, List.append_assoc, List.singleton_append]

theorem dropEndWhile_append {p : Char → Bool} {cs : List Char} (hcs : ∀ c ∈ cs, p c = false)
    (tail : List Char) : dropEndWhile p (cs ++ tail) = cs ++ dropEndWhile p tail := by
  rcases List.eq_nil_or_concat cs with rfl | ⟨before, c, rfl⟩
  · rfl
  · have hlast : p c = false := hcs c (by simp)
    rw [List.concat_eq_append, List.append_assoc, List.append_assoc, List.singleton_append,
      List.singleton_append, dropEndWhile_append_cons hlast]

/-! ## What is left -/

/-- A text neither begins nor ends with a character satisfying `p`. -/
structure IsTrimmed (p : Char → Bool) (cs : List Char) : Prop where
  first : ∀ c, cs.head? = some c → p c = false
  last : ∀ c, cs.getLast? = some c → p c = false

theorem isTrimmed_of_forall {p : Char → Bool} {cs : List Char} (hcs : ∀ c ∈ cs, p c = false) :
    IsTrimmed p cs :=
  ⟨fun c hc => hcs c (List.mem_of_head? hc), fun c hc => hcs c (List.mem_of_getLast? hc)⟩

/-- A text is what is left of it between two runs of characters satisfying `p`. -/
theorem exists_runs_stripWhile (p : Char → Bool) (cs : List Char) :
    ∃ before after, cs = before ++ stripWhile p cs ++ after ∧ (∀ c ∈ before, p c = true) ∧
      ∀ c ∈ after, p c = true := by
  obtain ⟨after, hsplit, hafter⟩ := exists_run_dropEndWhile p (cs.dropWhile p)
  refine ⟨cs.takeWhile p, after, ?_, fun c hc => List.mem_takeWhile_imp hc, List.all_eq_true.1 hafter⟩
  rw [List.append_assoc, stripWhile, ← hsplit, List.takeWhile_append_dropWhile]

theorem isTrimmed_stripWhile (p : Char → Bool) (cs : List Char) : IsTrimmed p (stripWhile p cs) := by
  refine ⟨fun c hfirst => ?_, fun c hlast => getLast?_dropEndWhile hlast⟩
  obtain ⟨after, hsplit, -⟩ := exists_run_dropEndWhile p (cs.dropWhile p)
  have hhead : (dropEndWhile p (cs.dropWhile p)).head? = some c := hfirst
  have hnot := List.head?_dropWhile_not p cs
  rw [hsplit, List.head?_append, hhead] at hnot
  simpa using hnot

/-- The runs around a trimmed text are what is dropped. -/
theorem stripWhile_append {p : Char → Bool} {before kept after : List Char} (hkept : IsTrimmed p kept)
    (hsome : kept ≠ []) (hbefore : ∀ c ∈ before, p c = true) (hafter : ∀ c ∈ after, p c = true) :
    stripWhile p (before ++ kept ++ after) = kept := by
  have hstart : (before ++ kept ++ after).dropWhile p = kept ++ after := by
    obtain ⟨c, rest, rfl⟩ := List.exists_cons_of_ne_nil hsome
    rw [List.append_assoc, List.dropWhile_append_of_pos hbefore, List.cons_append,
      List.dropWhile_cons_of_neg (by simp [hkept.first c rfl])]
  rcases List.eq_nil_or_concat kept with rfl | ⟨start, c, rfl⟩
  · exact absurd rfl hsome
  · have hlast : p c = false := hkept.last c (by simp)
    have hend : dropEndWhile p after = [] := by
      rw [dropEndWhile, List.reverse_eq_nil_iff, List.dropWhile_eq_nil_iff]
      exact fun c hc => hafter c (List.mem_reverse.1 hc)
    rw [stripWhile, hstart, List.concat_eq_append, List.append_assoc, List.singleton_append,
      dropEndWhile_append_cons hlast, hend]

end Gatehouse.Text
