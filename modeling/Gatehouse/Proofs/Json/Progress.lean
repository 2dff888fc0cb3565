import Gatehouse.Json.Parser

/-!
# Readers move on

Every reader takes at least one character, so that a text bounds the number of steps into it. What is
read within some number of steps is therefore read within as many steps as characters are taken, and the
text of an object is the same object whether it is read as a whole or one member at a time.
-/

namespace Gatehouse.Json

/-! ## What is left -/

/-- Fewer than `n` characters are left behind whatever is read. -/
def LeavesBelow {α : Type} (n : Nat) (result : Option (α × List Char)) : Prop :=
  ∀ x rest, result = some (x, rest) → rest.length < n

section

variable {α β : Type} {n m : Nat} {result : Option (α × List Char)}

theorem leavesBelow_none : LeavesBelow n (none : Option (α × List Char)) := by
  intro x rest h
  cases h

theorem leavesBelow_some {x : α} {rest : List Char} (hrest : rest.length < n) :
    LeavesBelow n (some (x, rest)) := by
  intro x' rest' h
  cases h
  exact hrest

theorem LeavesBelow.mono (hresult : LeavesBelow n result) (hle : n ≤ m) : LeavesBelow m result := by
  intro x rest h
  exact Nat.lt_of_lt_of_le (hresult x rest h) hle

theorem LeavesBelow.map (hresult : LeavesBelow n result) (f : α → β) (hle : n ≤ m) :
    LeavesBelow m (result.map fun (x, left) => (f x, left)) := by
  intro y rest h
  obtain ⟨⟨x, left⟩, hread, heq⟩ := Option.map_eq_some_iff.1 h
  cases heq
  exact Nat.lt_of_lt_of_le (hresult x rest hread) hle

end

theorem length_dropWhile_le (p : Char → Bool) (cs : List Char) :
    (cs.dropWhile p).length ≤ cs.length :=
  (List.dropWhile_sublist p).length_le

theorem length_skipSpace_le (cs : List Char) : (skipSpace cs).length ≤ cs.length :=
  length_dropWhile_le isSpace cs

/-- What stands behind blanks and one character is shorter than the whole. -/
theorem length_lt_of_skipSpace {cs rest : List Char} {c : Char} (hskip : skipSpace cs = c :: rest) :
    rest.length < cs.length := by
  have hle := length_skipSpace_le cs
  rw [hskip] at hle
  exact hle

theorem leavesBelow_stringBody (cs : List Char) : LeavesBelow cs.length (stringBody cs) := by
  fun_induction stringBody cs with
  | case1 => exact leavesBelow_none
  | case2 rest => exact leavesBelow_some (Nat.lt_succ_self _)
  | case3 => exact leavesBelow_none
  | case4 => exact leavesBelow_none
  | case5 a b c d e f g h rest high _ _ low _ _ ih =>
      exact ih.map _ (by simp only [List.length_cons]; omega)
  | case6 => exact leavesBelow_none
  | case7 => exact leavesBelow_none
  | case8 a b c d e f g h rest high _ _ _ ih => exact ih.map _ (by simp only [List.length_cons]; omega)
  | case9 => exact leavesBelow_none
  | case10 => exact leavesBelow_none
  | case11 a b c d rest _ unit _ _ ih => exact ih.map _ (by simp only [List.length_cons]; omega)
  | case12 => exact leavesBelow_none
  | case13 c rest _ _ escaped _ ih => exact ih.map _ (by simp only [List.length_cons]; omega)
  | case14 => exact leavesBelow_none
  | case15 c rest _ _ _ _ _ ih => exact ih.map _ (Nat.le_succ _)

/-! ## Numbers -/

theorem length_takeDigits_le (n : Nat) (cs : List Char) : (takeDigits n cs).2.length ≤ cs.length := by
  induction cs generalizing n with
  | nil => exact Nat.le_refl _
  | cons c cs ih =>
      rw [takeDigits]
      split
      · exact Nat.le_succ_of_le (ih _)
      · exact Nat.le_refl _

theorem leavesBelow_firstDigits (cs : List Char) : LeavesBelow cs.length (firstDigits cs) := by
  unfold firstDigits
  split
  · exact leavesBelow_none
  · split
    · exact leavesBelow_none
    · exact leavesBelow_some (Nat.lt_succ_self _)
  · split
    · exact leavesBelow_some (Nat.lt_succ_of_le (length_takeDigits_le _ _))
    · exact leavesBelow_none

def isNumber : Json → Bool
  | .int _ => true
  | .float _ => true
  | _ => false

/-- What is read is a number, with fewer than `n` characters behind it. -/
def NumberBelow (n : Nat) (result : Option (Json × List Char)) : Prop :=
  ∀ x rest, result = some (x, rest) → isNumber x = true ∧ rest.length < n

theorem numberBelow_none {n : Nat} : NumberBelow n none := by
  intro x rest h
  cases h

theorem numberBelow_some {n : Nat} {x : Json} {rest : List Char} (hnumber : isNumber x = true)
    (hrest : rest.length < n) : NumberBelow n (some (x, rest)) := by
  intro x' rest' h
  cases h
  exact ⟨hnumber, hrest⟩

theorem NumberBelow.mono {n m : Nat} {result : Option (Json × List Char)}
    (hresult : NumberBelow n result) (hle : n ≤ m) : NumberBelow m result := by
  intro x rest h
  obtain ⟨hnumber, hrest⟩ := hresult x rest h
  exact ⟨hnumber, Nat.lt_of_lt_of_le hrest hle⟩

theorem numberBelow_exponentPart (isNegative : Bool) (n : Nat) (e : Int) (cs : List Char) :
    NumberBelow (cs.length + 1) (exponentPart isNegative n e cs) := by
  have hdigits (minus : Bool) (digits : List Char) (hle : digits.length ≤ cs.length) :
      NumberBelow (cs.length + 1)
        (if digits.takeWhile Char.isDigit = [] then none
        else
          let size : Int := Number.ofDigits (digits.takeWhile Char.isDigit)
          some (floatOf isNegative n (if minus then e - size else e + size),
            digits.dropWhile Char.isDigit)) := by
    split
    · exact numberBelow_none
    · exact numberBelow_some rfl (Nat.lt_succ_of_le (Nat.le_trans (length_dropWhile_le _ _) hle))
  unfold exponentPart
  dsimp only
  split
  · exact hdigits false _ (Nat.le_succ _)
  · exact hdigits true _ (Nat.le_succ _)
  · exact hdigits false _ (Nat.le_refl _)

theorem numberBelow_numberEnd (isNegative : Bool) (n : Nat) (e : Int) (cs : List Char) :
    NumberBelow (cs.length + 1) (numberEnd isNegative n e cs) := by
  unfold numberEnd
  split
  · exact (numberBelow_exponentPart _ _ _ _).mono (Nat.le_succ _)
  · exact (numberBelow_exponentPart _ _ _ _).mono (Nat.le_succ _)
  · exact numberBelow_some rfl (Nat.lt_succ_self _)

theorem numberBelow_fractionPart (isNegative : Bool) (n : Nat) (e : Int) (cs : List Char) :
    NumberBelow (cs.length + 1) (fractionPart isNegative n e cs) := by
  unfold fractionPart
  dsimp only
  split
  · exact numberBelow_none
  · refine (numberBelow_numberEnd _ _ _ _).mono (Nat.succ_le_succ ?_)
    exact Nat.le_trans (length_dropWhile_le _ _) (length_takeDigits_le n cs)

theorem numberBelow_numberFrom (isNegative : Bool) (n : Nat) (cs : List Char) :
    NumberBelow (cs.length + 1) (numberFrom isNegative n cs) := by
  have hrest := length_dropWhile_le Char.isDigit cs
  unfold numberFrom
  dsimp only
  split
  · next more hmore =>
      rw [hmore] at hrest
      exact (numberBelow_fractionPart _ _ _ _).mono (Nat.le_succ_of_le hrest)
  · next more hmore =>
      rw [hmore] at hrest
      exact (numberBelow_exponentPart _ _ _ _).mono (Nat.le_succ_of_le hrest)
  · next more hmore =>
      rw [hmore] at hrest
      exact (numberBelow_exponentPart _ _ _ _).mono (Nat.le_succ_of_le hrest)
  · have hended {x : Json} (hnumber : isNumber x = true) :
        NumberBelow (cs.length + 1) (some (x, cs.dropWhile Char.isDigit)) :=
      numberBelow_some hnumber (Nat.lt_succ_of_le hrest)
    split
    · exact hended rfl
    · split
      · split
        · exact hended rfl
        · exact hended rfl
      · exact hended rfl

theorem numberBelow_number (cs : List Char) : NumberBelow cs.length (number cs) := by
  have hunsigned (isNegative : Bool) (cs : List Char) :
      NumberBelow cs.length (unsignedNumber isNegative cs) := by
    intro x rest h
    obtain ⟨⟨n, more⟩, hfirst, hread⟩ := Option.bind_eq_some_iff.1 h
    have hmore := leavesBelow_firstDigits cs n more hfirst
    obtain ⟨hnumber, hleft⟩ := numberBelow_numberFrom isNegative n more x rest hread
    exact ⟨hnumber, by omega⟩
  unfold number
  split
  · exact (hunsigned _ _).mono (Nat.le_succ _)
  · exact hunsigned _ _

/-! ## Values -/

section

variable {n : Nat} (hvalue : ∀ cs, LeavesBelow cs.length (value n cs))
  (hitems : ∀ cs, LeavesBelow cs.length (items n cs))
  (hmembers : ∀ cs, LeavesBelow cs.length (members n cs))

include hitems hmembers in
theorem leavesBelow_value_succ (cs : List Char) : LeavesBelow cs.length (value (n + 1) cs) := by
  have hskip := length_skipSpace_le cs
  rw [value]
  split
  · next h => exact leavesBelow_some (by simp only [h, List.length_cons] at hskip; omega)
  · next h => exact leavesBelow_some (by simp only [h, List.length_cons] at hskip; omega)
  · next h => exact leavesBelow_some (by simp only [h, List.length_cons] at hskip; omega)
  · next rest h =>
      exact (leavesBelow_stringBody rest).map (fun s => Json.str (String.ofList s))
        (Nat.le_of_lt (length_lt_of_skipSpace h))
  · next rest h =>
      have hrest := length_lt_of_skipSpace h
      split
      · next left hclose => exact leavesBelow_some (Nat.lt_trans (length_lt_of_skipSpace hclose) hrest)
      · exact (hitems rest).map _ (Nat.le_of_lt hrest)
  · next rest h =>
      have hrest := length_lt_of_skipSpace h
      split
      · next left hclose => exact leavesBelow_some (Nat.lt_trans (length_lt_of_skipSpace hclose) hrest)
      · exact (hmembers rest).map _ (Nat.le_of_lt hrest)
  · intro x rest h
    exact Nat.lt_of_lt_of_le (numberBelow_number _ x rest h).2 hskip

include hvalue hitems in
theorem leavesBelow_items_succ (cs : List Char) : LeavesBelow cs.length (items (n + 1) cs) := by
  rw [items]
  split
  · exact leavesBelow_none
  · next x rest hread =>
      have hrest := hvalue cs x rest hread
      split
      · next left hclose => exact leavesBelow_some (Nat.lt_trans (length_lt_of_skipSpace hclose) hrest)
      · next more hcomma =>
          have hmore := length_lt_of_skipSpace hcomma
          exact (hitems more).map _ (Nat.le_of_lt (Nat.lt_trans hmore hrest))
      · exact leavesBelow_none

include hvalue hmembers in
theorem leavesBelow_members_succ (cs : List Char) : LeavesBelow cs.length (members (n + 1) cs) := by
  rw [members]
  split
  · next named hquote =>
      have hnamed := length_lt_of_skipSpace hquote
      split
      · exact leavesBelow_none
      · next name rest hname =>
          have hrest := leavesBelow_stringBody named name rest hname
          split
          · next valued hcolon =>
              have hvalued := length_lt_of_skipSpace hcolon
              split
              · exact leavesBelow_none
              · next x rest hread =>
                  have hleft := hvalue valued x rest hread
                  split
                  · next left hclose =>
                      have hlast := length_lt_of_skipSpace hclose
                      exact leavesBelow_some (by omega)
                  · next more hcomma =>
                      have hmore := length_lt_of_skipSpace hcomma
                      exact (hmembers more).map _ (by omega)
                  · exact leavesBelow_none
          · exact leavesBelow_none
  · exact leavesBelow_none

end

theorem leavesBelow_steps (n : Nat) :
    (∀ cs, LeavesBelow cs.length (value n cs)) ∧ (∀ cs, LeavesBelow cs.length (items n cs)) ∧
      ∀ cs, LeavesBelow cs.length (members n cs) := by
  induction n with
  | zero => exact ⟨fun _ => leavesBelow_none, fun _ => leavesBelow_none, fun _ => leavesBelow_none⟩
  | succ n ih =>
      obtain ⟨hvalue, hitems, hmembers⟩ := ih
      exact ⟨leavesBelow_value_succ hitems hmembers, leavesBelow_items_succ hvalue hitems,
        leavesBelow_members_succ hvalue hmembers⟩

/-! ## Steps -/

/-- What `read` gives within `n` steps it gives within as many steps as it takes characters. -/
def Settles {α : Type} (read : Nat → List Char → Option (α × List Char)) (n : Nat) : Prop :=
  ∀ cs x rest m, read n cs = some (x, rest) → cs.length ≤ rest.length + m →
    read m cs = some (x, rest)

section

variable {n : Nat} (hvalue : Settles value n) (hitems : Settles items n)
  (hmembers : Settles members n)

include hitems hmembers in
theorem settles_value_succ : Settles value (n + 1) := by
  intro cs x rest m hread hm
  have hlt := (leavesBelow_steps (n + 1)).1 cs x rest hread
  obtain ⟨m, rfl⟩ : ∃ k, m = k + 1 := ⟨m - 1, by omega⟩
  rw [value] at hread ⊢
  revert hread
  split
  · exact id
  · exact id
  · exact id
  · exact id
  · next inner hopen =>
      have hinner := length_lt_of_skipSpace hopen
      split
      · exact id
      · intro hread
        obtain ⟨⟨xs, left⟩, hxs, heq⟩ := Option.map_eq_some_iff.1 hread
        cases heq
        rw [hitems inner xs rest m hxs (by omega)]
        rfl
  · next inner hopen =>
      have hinner := length_lt_of_skipSpace hopen
      split
      · exact id
      · intro hread
        obtain ⟨⟨ms, left⟩, hms, heq⟩ := Option.map_eq_some_iff.1 hread
        cases heq
        rw [hmembers inner ms rest m hms (by omega)]
        rfl
  · exact id

include hvalue hitems in
theorem settles_items_succ : Settles items (n + 1) := by
  intro cs xs rest m hread hm
  have hlt := (leavesBelow_steps (n + 1)).2.1 cs xs rest hread
  obtain ⟨m, rfl⟩ : ∃ k, m = k + 1 := ⟨m - 1, by omega⟩
  rw [items] at hread ⊢
  split at hread
  · cases hread
  · next x after hx =>
      have hafter := (leavesBelow_steps n).1 cs x after hx
      revert hread
      split
      · next left hclose =>
          have hleft := length_lt_of_skipSpace hclose
          intro hread
          cases hread
          rw [hvalue cs x after m hx (by omega)]
          simp only [hclose]
      · next more hcomma =>
          have hmore := length_lt_of_skipSpace hcomma
          intro hread
          obtain ⟨⟨ys, left⟩, hys, heq⟩ := Option.map_eq_some_iff.1 hread
          cases heq
          have hleft := (leavesBelow_steps n).2.1 more ys rest hys
          rw [hvalue cs x after m hx (by omega)]
          simp only [hcomma, hitems more ys rest m hys (by omega)]
          rfl
      · intro hread
        cases hread

include hvalue hmembers in
theorem settles_members_succ : Settles members (n + 1) := by
  intro cs ms rest m hread hm
  have hlt := (leavesBelow_steps (n + 1)).2.2 cs ms rest hread
  obtain ⟨m, rfl⟩ : ∃ k, m = k + 1 := ⟨m - 1, by omega⟩
  rw [members] at hread ⊢
  revert hread
  split
  · next named hquote =>
      have hnamed := length_lt_of_skipSpace hquote
      split
      · exact id
      · next name left hname =>
          have hleft := leavesBelow_stringBody named name left hname
          split
          · next valued hcolon =>
              have hvalued := length_lt_of_skipSpace hcolon
              intro hread
              split at hread
              · cases hread
              · next x after hx =>
                  have hafter := (leavesBelow_steps n).1 valued x after hx
                  revert hread
                  split
                  · next last hclose =>
                      have hlast := length_lt_of_skipSpace hclose
                      intro hread
                      cases hread
                      rw [hvalue valued x after m hx (by omega)]
                      simp only [hclose]
                  · next more hcomma =>
                      have hmore := length_lt_of_skipSpace hcomma
                      intro hread
                      obtain ⟨⟨later, last⟩, hlater, heq⟩ := Option.map_eq_some_iff.1 hread
                      cases heq
                      have hlast := (leavesBelow_steps n).2.2 more later rest hlater
                      rw [hvalue valued x after m hx (by omega)]
                      simp only [hcomma, hmembers more later rest m hlater (by omega)]
                      rfl
                  · intro hread
                    cases hread
          · exact id
  · exact id

end

theorem settles_steps (n : Nat) : Settles value n ∧ Settles items n ∧ Settles members n := by
  induction n with
  | zero =>
      refine ⟨?_, ?_, ?_⟩
      · intro cs x rest m h
        cases h
      · intro cs x rest m h
        cases h
      · intro cs x rest m h
        cases h
  | succ n ih =>
      obtain ⟨hvalue, hitems, hmembers⟩ := ih
      exact ⟨settles_value_succ hitems hmembers, settles_items_succ hvalue hitems,
        settles_members_succ hvalue hmembers⟩

/-- A value that is read within any number of steps is what a text begins with. -/
theorem read_eq_some_of_value {n : Nat} {cs rest : List Char} {x : Json}
    (hread : value n cs = some (x, rest)) : read cs = some (x, rest) :=
  (settles_steps n).1 cs x rest _ hread (by omega)

/-! ## Objects, member by member -/

/-- The members of an object are read one by one, up to the same brace. -/
theorem openMembers_of_members {n : Nat} {cs rest : List Char} {ms : List (String × Json)}
    (hread : members n cs = some (ms, rest)) {m : Nat} (hm : cs.length < m) :
    openMembers m cs = ⟨ms, .closed rest⟩ := by
  induction n generalizing cs ms m with
  | zero => cases hread
  | succ n ih =>
      obtain ⟨m, rfl⟩ : ∃ k, m = k + 1 := ⟨m - 1, by omega⟩
      rw [members] at hread
      rw [openMembers]
      revert hread
      split
      · next named hquote =>
          have hnamed := length_lt_of_skipSpace hquote
          split
          · intro h
            cases h
          · next name left hname =>
              have hleft := leavesBelow_stringBody named name left hname
              dsimp only
              split
              · next valued hcolon =>
                  have hvalued := length_lt_of_skipSpace hcolon
                  intro hread
                  split at hread
                  · cases hread
                  · next x after hx =>
                      have hafter := (leavesBelow_steps n).1 valued x after hx
                      rw [read_eq_some_of_value hx]
                      dsimp only
                      revert hread
                      split
                      · intro hread
                        cases hread
                        rfl
                      · next more hcomma =>
                          have hmore := length_lt_of_skipSpace hcomma
                          intro hread
                          obtain ⟨⟨later, last⟩, hlater, heq⟩ := Option.map_eq_some_iff.1 hread
                          cases heq
                          rw [ih hlater (by omega)]
                      · intro hread
                        cases hread
              · intro h
                cases h
      · intro h
        cases h

/-- Members that are read one by one up to a brace make an object. -/
theorem members_of_openMembers {m : Nat} {cs rest : List Char} {ms : List (String × Json)}
    (hopen : openMembers m cs = ⟨ms, .closed rest⟩) : members cs.length cs = some (ms, rest) := by
  induction m generalizing cs ms with
  | zero => cases hopen
  | succ m ih =>
      rw [openMembers] at hopen
      split at hopen
      · next named hquote =>
          have hnamed := length_lt_of_skipSpace hquote
          obtain ⟨n, hn⟩ : ∃ n, cs.length = n + 1 := ⟨cs.length - 1, by omega⟩
          split at hopen
          · cases hopen
          · next name left hname =>
              have hleft := leavesBelow_stringBody named name left hname
              dsimp only at hopen
              split at hopen
              · next valued hcolon =>
                  have hvalued := length_lt_of_skipSpace hcolon
                  split at hopen
                  · cases hopen
                  · next x after hx =>
                      have hafter := (leavesBelow_steps _).1 valued x after hx
                      have hx : value n valued = some (x, after) :=
                        (settles_steps _).1 valued x after n hx (by omega)
                      rw [hn, members]
                      simp only [hquote, hname, hcolon, hx]
                      split at hopen
                      · next last hclose =>
                          cases hopen
                          rfl
                      · next more hcomma =>
                          have hmore := length_lt_of_skipSpace hcomma
                          have hending : (openMembers m more).ending = .closed rest :=
                            congrArg Opening.ending hopen
                          have hlater : members more.length more =
                              some ((openMembers m more).members, rest) :=
                            ih (by rw [← hending])
                          have hlater : members n more = some ((openMembers m more).members, rest) :=
                            (settles_steps _).2.2 more _ rest n hlater (by omega)
                          cases congrArg Opening.members hopen
                          simp only [hlater]
                          rfl
                      · cases hopen
              · cases hopen
      · cases hopen

/-- Only a brace begins an object. -/
theorem value_eq_obj_iff {n : Nat} {cs rest : List Char} {ms : List (String × Json)} :
    value (n + 1) cs = some (.obj ms, rest) ↔ ∃ inner, skipSpace cs = '\x7b' :: inner ∧
      (skipSpace inner = '\x7d' :: rest ∧ ms = [] ∨
        (∀ left, skipSpace inner ≠ '\x7d' :: left) ∧ members n inner = some (ms, rest)) := by
  constructor
  · intro hread
    rw [value] at hread
    split at hread
    · cases hread
    · cases hread
    · cases hread
    · obtain ⟨⟨s, left⟩, -, heq⟩ := Option.map_eq_some_iff.1 hread
      cases heq
    · split at hread
      · cases hread
      · obtain ⟨⟨xs, left⟩, -, heq⟩ := Option.map_eq_some_iff.1 hread
        cases heq
    · next inner hopen =>
        refine ⟨inner, hopen, ?_⟩
        split at hread
        · next left hclose =>
            cases hread
            exact .inl ⟨hclose, rfl⟩
        · next hmore =>
            obtain ⟨⟨ms', left⟩, hmembers, heq⟩ := Option.map_eq_some_iff.1 hread
            cases heq
            exact .inr ⟨hmore, hmembers⟩
    · cases (numberBelow_number _ _ _ hread).1
  · rintro ⟨inner, hopen, ⟨hclose, rfl⟩ | ⟨hmore, hmembers⟩⟩
    · rw [value]
      simp only [hopen, hclose]
    · rw [value]
      simp only [hopen]
      rw [hmembers]
      rfl

/-- The text of an object is opened to the end exactly when it is read as a whole, with the same members
and the same rest. -/
theorem ofText?_closed_iff {cs rest : List Char} {ms : List (String × Json)} :
    Opening.ofText? cs = some ⟨ms, .closed rest⟩ ↔ read cs = some (.obj ms, rest) := by
  rw [read, value_eq_obj_iff]
  constructor
  · intro hopened
    unfold Opening.ofText? at hopened
    split at hopened
    · next inner hopen =>
        have hinner := length_lt_of_skipSpace hopen
        refine ⟨inner, hopen, ?_⟩
        split at hopened
        · next left hclose =>
            cases hopened
            exact .inl ⟨hclose, rfl⟩
        · next hmore =>
            have hread := members_of_openMembers (Option.some.inj hopened)
            exact .inr ⟨hmore, (settles_steps _).2.2 inner ms rest _ hread (by omega)⟩
    · cases hopened
  · rintro ⟨inner, hopen, ⟨hclose, rfl⟩ | ⟨hmore, hmembers⟩⟩
    · unfold Opening.ofText?
      simp only [hopen, hclose]
    · unfold Opening.ofText?
      simp only [hopen]
      rw [openMembers_of_members hmembers (Nat.lt_succ_self _)]

/-- A text that begins like an object is an object, if it is anything. -/
theorem exists_eq_obj_of_parse? {text : String} {opening : Opening} {x : Json}
    (hopened : Opening.ofText? text.toList = some opening) (hparsed : parse? text = some x) :
    ∃ ms, x = .obj ms := by
  unfold Opening.ofText? at hopened
  split at hopened
  · next inner hopen =>
      unfold parse? at hparsed
      split at hparsed
      · next x' rest hread =>
          obtain ⟨-, hsame⟩ := Option.ite_none_right_eq_some.1 hparsed
          cases hsame
          rw [read, value] at hread
          simp only [hopen] at hread
          split at hread
          · cases hread
            exact ⟨[], rfl⟩
          · obtain ⟨⟨ms, left⟩, -, heq⟩ := Option.map_eq_some_iff.1 hread
            cases heq
            exact ⟨ms, rfl⟩
      · cases hparsed
  · cases hopened

/-- A text is an object when it is opened to the end with nothing but blanks behind it. -/
theorem parse?_eq_obj_iff {text : String} {ms : List (String × Json)} :
    parse? text = some (.obj ms) ↔
      ∃ rest, Opening.ofText? text.toList = some ⟨ms, .closed rest⟩ ∧ skipSpace rest = [] := by
  simp only [ofText?_closed_iff]
  unfold parse?
  constructor
  · intro hparsed
    split at hparsed
    · next x rest hread =>
        split at hparsed
        · next hend =>
            cases hparsed
            exact ⟨rest, hread, hend⟩
        · cases hparsed
    · cases hparsed
  · rintro ⟨rest, hread, hend⟩
    rw [hread]
    exact if_pos hend

end Gatehouse.Json
