import Gatehouse.Unicode.Composition

/-!
# What composition keeps

A character below the accents that is composed with nothing behind it is still there in the composed form
of a text, whatever is around it. A text of such characters is composed as it stands.
-/

namespace Gatehouse.Unicode

theorem combiningClass_of_lt {n : Nat} (hn : n < 0x300) : combiningClass n = 0 := if_pos hn

theorem composed?_of_lt {b : Char} (hb : b.toNat < 0x300) (a : Char) : composed? a b = none := if_pos hb

/-- Only three signs below the small letters are composed with anything. -/
theorem composed?_of_lt_of_ne {a : Char} (ha : a.toNat < 0x60) (hless : a ≠ '<') (hequal : a ≠ '=')
    (hgreater : a ≠ '>') (b : Char) : composed? a b = none := by
  have htable : ∀ entry ∈ compositions,
      0x60 ≤ entry.1 ∨ entry.1 = '<'.toNat ∨ entry.1 = '='.toNat ∨ entry.1 = '>'.toNat := by
    decide +kernel
  have hsyllable : syllable? a.toNat b.toNat = none := by
    rw [syllable?, if_neg (by omega), if_neg (by omega)]
  rw [composed?, hsyllable]
  split
  · rfl
  · refine Option.map_eq_none_iff.2 (List.find?_eq_none.2 fun entry hentry hsame => ?_)
    have hfirst : entry.1 = a.toNat := of_decide_eq_true (Bool.and_eq_true _ _ ▸ hsame).1
    rcases htable entry hentry with hlarge | hsign | hsign | hsign
    · omega
    · exact hless (Char.toNat_inj.1 (hfirst.symm.trans hsign))
    · exact hequal (Char.toNat_inj.1 (hfirst.symm.trans hsign))
    · exact hgreater (Char.toNat_inj.1 (hfirst.symm.trans hsign))

theorem composed?_of_composedOver? {starter c both : Char} {marks : List Char}
    (hboth : composedOver? starter marks c = some both) : composed? starter c = some both := by
  unfold composedOver? at hboth
  split at hboth
  · exact hboth
  · split at hboth
    · exact hboth
    · cases hboth

theorem mem_decompose {c : Char} (hc : c.toNat < 0xC0) {cs : List Char} (hmem : c ∈ cs) :
    c ∈ decompose cs := by
  have hparts : c ∈ parts c := by
    rw [parts, if_pos hc]
    exact List.mem_singleton_self c
  exact List.mem_flatMap.2 ⟨c, List.mem_flatMap.2 ⟨c, hmem, hparts⟩, hparts⟩

theorem mem_place_iff {c d : Char} {cs : List Char} : d ∈ place c cs ↔ d = c ∨ d ∈ cs := by
  induction cs with
  | nil => simp [place]
  | cons e cs ih =>
      rw [place]
      split
      · rw [List.mem_cons, ih, List.mem_cons, or_left_comm]
      · exact List.mem_cons

theorem mem_order_iff {c : Char} {cs : List Char} : c ∈ order cs ↔ c ∈ cs := by
  induction cs with
  | nil => rfl
  | cons d cs ih =>
      change c ∈ place d (order cs) ↔ _
      rw [mem_place_iff, ih, List.mem_cons]

section Kept

variable {c : Char} (hsmall : c.toNat < 0x300) (halone : ∀ b, composed? c b = none)

include hsmall halone

theorem mem_composeWith {starter : Char} {marks cs : List Char}
    (hmem : c = starter ∨ c ∈ marks ∨ c ∈ cs) : c ∈ composeWith starter marks cs := by
  induction cs generalizing starter marks with
  | nil => simpa [composeWith] using hmem
  | cons d cs ih =>
      rw [composeWith]
      split
      · next both hboth =>
          have hcomposed := composed?_of_composedOver? hboth
          have hstarter : c ≠ starter := by
            rintro rfl
            rw [halone] at hcomposed
            cases hcomposed
          have hmark : c ≠ d := by
            rintro rfl
            rw [composed?_of_lt hsmall] at hcomposed
            cases hcomposed
          refine ih (.inr ?_)
          rcases hmem with hstart | hmarks | hrest
          · exact absurd hstart hstarter
          · exact .inl hmarks
          · exact .inr (List.mem_of_ne_of_mem hmark hrest)
      · split
        · rw [List.mem_cons, List.mem_append, List.mem_reverse]
          rcases hmem with hstart | hmarks | hrest
          · exact .inl hstart
          · exact .inr (.inl hmarks)
          · refine .inr (.inr (ih ?_))
            exact (List.mem_cons.1 hrest).imp_right .inr
        · refine ih ?_
          rcases hmem with hstart | hmarks | hrest
          · exact .inl hstart
          · exact .inr (.inl (List.mem_cons_of_mem _ hmarks))
          · rcases List.mem_cons.1 hrest with rfl | hrest
            · exact .inr (.inl List.mem_cons_self)
            · exact .inr (.inr hrest)

theorem mem_compose {cs : List Char} (hmem : c ∈ cs) : c ∈ compose cs := by
  induction cs with
  | nil => cases hmem
  | cons d cs ih =>
      rw [compose]
      split
      · exact mem_composeWith hsmall halone ((List.mem_cons.1 hmem).imp_right .inr)
      · exact List.mem_cons.2 ((List.mem_cons.1 hmem).imp_right ih)

end Kept

theorem mem_normalize {c : Char} (hsmall : c.toNat < 0xC0) (halone : ∀ b, composed? c b = none)
    {cs : List Char} (hmem : c ∈ cs) : c ∈ normalize cs :=
  mem_compose (Nat.lt_trans hsmall (by decide)) halone (mem_order_iff.2 (mem_decompose hsmall hmem))

/-! ## Texts below the accents -/

theorem decompose_of_lt {cs : List Char} (hsmall : ∀ c ∈ cs, c.toNat < 0xC0) : decompose cs = cs := by
  have hsingle : cs.flatMap parts = cs := by
    induction cs with
    | nil => rfl
    | cons c cs ih =>
        obtain ⟨hc, hcs⟩ := List.forall_mem_cons.1 hsmall
        rw [List.flatMap_cons, ih hcs, parts, if_pos hc]
        rfl
  rw [decompose, hsingle, hsingle]

theorem order_of_lt {cs : List Char} (hsmall : ∀ c ∈ cs, c.toNat < 0x300) : order cs = cs := by
  induction cs with
  | nil => rfl
  | cons c cs ih =>
      obtain ⟨-, hcs⟩ := List.forall_mem_cons.1 hsmall
      change place c (order cs) = c :: cs
      rw [ih hcs]
      cases cs with
      | nil => rfl
      | cons d cs =>
          have hd := combiningClass_of_lt (hcs d List.mem_cons_self)
          rw [place, if_neg fun hpasses => Nat.ne_of_gt hpasses.1 hd]

theorem composeWith_of_lt {starter : Char} {cs : List Char} (hsmall : ∀ c ∈ cs, c.toNat < 0x300) :
    composeWith starter [] cs = starter :: cs := by
  induction cs generalizing starter with
  | nil => rfl
  | cons c cs ih =>
      obtain ⟨hc, hcs⟩ := List.forall_mem_cons.1 hsmall
      rw [composeWith, composedOver?, composed?_of_lt hc]
      dsimp only
      rw [if_pos (combiningClass_of_lt hc), ih hcs]
      rfl

theorem normalize_of_lt {cs : List Char} (hsmall : ∀ c ∈ cs, c.toNat < 0xC0) : normalize cs = cs := by
  have hbelow : ∀ c ∈ cs, c.toNat < 0x300 := fun c hc => Nat.lt_trans (hsmall c hc) (by decide)
  rw [normalize, decompose_of_lt hsmall, order_of_lt hbelow]
  cases cs with
  | nil => rfl
  | cons c cs =>
      obtain ⟨hc, hcs⟩ := List.forall_mem_cons.1 hbelow
      rw [compose, if_pos (combiningClass_of_lt hc), composeWith_of_lt hcs]

end Gatehouse.Unicode
