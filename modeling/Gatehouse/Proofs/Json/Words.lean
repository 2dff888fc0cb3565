import Gatehouse.Proofs.Json.Canonical

/-!
# Numbers that are read

A reader makes an integer of a number only where it fits a word of 64 bits, with or without a sign. So a
value that was read and holds no floating-point number can be written and read back.
-/

namespace Gatehouse.Json

/-! ## Parts of a value -/

/-- A value is another one or stands somewhere in it. -/
inductive Part (part : Json) : Json → Prop
  | self : Part part part
  | item {item : Json} {items : List Json} : item ∈ items → Part part item → Part part (.arr items)
  | member {member : String × Json} {members : List (String × Json)} : member ∈ members →
      Part part member.2 → Part part (.obj members)

/-- Every integer in a value fits a word of 64 bits. -/
def HoldsWords (v : Json) : Prop :=
  ∀ n, Part (.int n) v → Int64.minValue.toInt ≤ n ∧ n < UInt64.size

theorem holdsWords_null : HoldsWords .null := by
  rintro n ⟨⟩

theorem holdsWords_bool (b : Bool) : HoldsWords (.bool b) := by
  rintro n ⟨⟩

theorem holdsWords_str (s : String) : HoldsWords (.str s) := by
  rintro n ⟨⟩

theorem holdsWords_int {n : Int} (hlow : Int64.minValue.toInt ≤ n) (hhigh : n < UInt64.size) :
    HoldsWords (.int n) := by
  rintro _ ⟨⟩
  exact ⟨hlow, hhigh⟩

theorem holdsWords_float (x : Number.Binary64) : HoldsWords (.float x) := by
  rintro n ⟨⟩

theorem holdsWords_arr {items : List Json} (hitems : ∀ item ∈ items, HoldsWords item) :
    HoldsWords (.arr items) := by
  rintro n (_ | ⟨hmem, hpart⟩)
  exact hitems _ hmem n hpart

theorem holdsWords_obj {members : List (String × Json)}
    (hmembers : ∀ member ∈ members, HoldsWords member.2) : HoldsWords (.obj members) := by
  rintro n (_ | _ | ⟨hmem, hpart⟩)
  exact hmembers _ hmem n hpart

/-- Without floating-point numbers all numbers are whole. -/
theorem HoldsWords.isWhole {v : Json} (hwords : HoldsWords v)
    (hfloats : ∀ x, ¬Part (.float x) v) : v.isWhole = true := by
  induction v using inductionOn with
  | null => rfl
  | bool b => rfl
  | int n =>
      obtain ⟨hlow, hhigh⟩ := hwords n .self
      simp only [Json.isWhole, Bool.and_eq_true, decide_eq_true_eq]
      exact ⟨hlow, hhigh⟩
  | float x => exact absurd .self (hfloats x)
  | str s => rfl
  | arr items ih =>
      refine (isWhole_arr_iff items).2 fun item hitem => ih item hitem ?_ ?_
      · exact fun n hpart => hwords n (.item hitem hpart)
      · exact fun x hpart => hfloats x (.item hitem hpart)
  | obj members ih =>
      refine isWhole_obj_iff.2 fun member hmember => ih member hmember ?_ ?_
      · exact fun n hpart => hwords n (.member hmember hpart)
      · exact fun x hpart => hfloats x (.member hmember hpart)

/-- A value of whole numbers holds no floating-point number. -/
theorem not_part_float_of_isWhole {v : Json} (hwhole : v.isWhole = true) (x : Number.Binary64) :
    ¬Part (.float x) v := by
  intro hpart
  induction hpart with
  | self => cases hwhole
  | item hmem _ ih => exact ih ((isWhole_arr_iff _).1 hwhole _ hmem)
  | member hmem _ ih => exact ih (isWhole_obj_iff.1 hwhole _ hmem)

/-! ## Results of readers -/

section

variable {α β : Type} {P : α → Prop} {Q : β → Prop} {result : Option (α × List Char)}

/-- Whatever is read has a property. -/
def Gives (P : α → Prop) (result : Option (α × List Char)) : Prop :=
  ∀ a rest, result = some (a, rest) → P a

theorem gives_none : Gives P none := nofun

theorem gives_some {a : α} (ha : P a) (rest : List Char) : Gives P (some (a, rest)) := by
  rintro _ _ ⟨⟩
  exact ha

theorem Gives.map {f : α → β} (hresult : Gives P result) (hf : ∀ a, P a → Q (f a)) :
    Gives Q (result.map fun (a, left) => (f a, left)) := by
  intro b rest hb
  obtain ⟨⟨a, rest⟩, hread, heq⟩ := Option.map_eq_some_iff.1 hb
  cases heq
  exact hf a (hresult a rest hread)

end

/-! ## Numbers -/

theorem takeDigits_lt {n : Nat} (hn : n < UInt64.size) (cs : List Char) :
    (takeDigits n cs).1 < UInt64.size := by
  induction cs generalizing n with
  | nil => exact hn
  | cons c cs ih =>
      rw [takeDigits]
      split
      · next hfits => exact ih hfits.2
      · exact hn

theorem digitValue_lt (c : Char) : Number.digitValue c < UInt64.size := by
  have hchar := c.val.toNat_lt
  have hsize : UInt64.size = 0x10000000000000000 := rfl
  have hvalue : c.toNat = c.val.toNat := rfl
  rw [Number.digitValue]
  omega

theorem gives_firstDigits (cs : List Char) : Gives (fun n => n < UInt64.size) (firstDigits cs) := by
  unfold firstDigits
  split
  · exact gives_none
  · split
    · exact gives_none
    · exact gives_some (by decide) _
  · next c rest _ =>
      split
      · intro n left htaken
        have hfits := takeDigits_lt (digitValue_lt c) rest
        rw [Option.some.inj htaken] at hfits
        exact hfits
      · exact gives_none

theorem gives_exponentPart (isNegative : Bool) (n : Nat) (e : Int) (cs : List Char) :
    Gives HoldsWords (exponentPart isNegative n e cs) := by
  unfold exponentPart
  dsimp only
  split
  all_goals
    split
    · exact gives_none
    · exact gives_some (holdsWords_float _) _

theorem gives_fractionPart (isNegative : Bool) (n : Nat) (e : Int) (cs : List Char) :
    Gives HoldsWords (fractionPart isNegative n e cs) := by
  unfold fractionPart
  dsimp only
  split
  · exact gives_none
  · unfold numberEnd
    split
    · exact gives_exponentPart _ _ _ _
    · exact gives_exponentPart _ _ _ _
    · exact gives_some (holdsWords_float _) _

theorem gives_numberFrom (isNegative : Bool) {n : Nat} (hn : n < UInt64.size) (cs : List Char) :
    Gives HoldsWords (numberFrom isNegative n cs) := by
  have hsize : UInt64.size = 0x10000000000000000 := rfl
  have hleast : Int64.minValue.toInt = -0x8000000000000000 := rfl
  unfold numberFrom
  dsimp only
  split
  · exact gives_fractionPart _ _ _ _
  · exact gives_exponentPart _ _ _ _
  · exact gives_exponentPart _ _ _ _
  · split
    · exact gives_some (holdsWords_float _) _
    · split
      · split
        · exact gives_some (holdsWords_float _) _
        · next hbound => exact gives_some (holdsWords_int (by omega) (by omega)) _
      · exact gives_some (holdsWords_int (by omega) (by omega)) _

theorem gives_number (cs : List Char) : Gives HoldsWords (number cs) := by
  have hunsigned (isNegative : Bool) (cs : List Char) :
      Gives HoldsWords (unsignedNumber isNegative cs) := by
    intro x rest hread
    obtain ⟨⟨n, more⟩, hfirst, hread⟩ := Option.bind_eq_some_iff.1 hread
    exact gives_numberFrom isNegative (gives_firstDigits cs n more hfirst) more x rest hread
  unfold number
  split
  · exact hunsigned true _
  · exact hunsigned false _

/-! ## Values -/

/-- Whatever is read within some number of steps has words for integers. -/
structure GivesWords (n : Nat) : Prop where
  value : ∀ cs, Gives HoldsWords (value n cs)
  items : ∀ cs, Gives (fun items => ∀ item ∈ items, HoldsWords item) (items n cs)
  members : ∀ cs, Gives (fun members => ∀ member ∈ members, HoldsWords member.2) (members n cs)

theorem GivesWords.value_succ {n : Nat} (hn : GivesWords n) (cs : List Char) :
    Gives HoldsWords (Json.value (n + 1) cs) := by
  rw [Json.value]
  split
  · exact gives_some holdsWords_null _
  · exact gives_some (holdsWords_bool true) _
  · exact gives_some (holdsWords_bool false) _
  · next rest _ =>
      intro x left hread
      obtain ⟨⟨s, more⟩, -, heq⟩ := Option.map_eq_some_iff.1 hread
      cases heq
      exact holdsWords_str _
  · next rest _ =>
      split
      · exact gives_some (holdsWords_arr fun _ h => absurd h List.not_mem_nil) _
      · exact (hn.items rest).map fun _ => holdsWords_arr
  · next rest _ =>
      split
      · exact gives_some (holdsWords_obj fun _ h => absurd h List.not_mem_nil) _
      · exact (hn.members rest).map fun _ => holdsWords_obj
  · exact gives_number _

theorem GivesWords.items_succ {n : Nat} (hn : GivesWords n) (cs : List Char) :
    Gives (fun items => ∀ item ∈ items, HoldsWords item) (Json.items (n + 1) cs) := by
  rw [Json.items]
  split
  · exact gives_none
  · next x rest hread =>
      have hx := hn.value cs x rest hread
      split
      · exact gives_some (List.forall_mem_singleton.2 hx) _
      · next more _ =>
          exact (hn.items more).map fun _ hlater => List.forall_mem_cons.2 ⟨hx, hlater⟩
      · exact gives_none

theorem GivesWords.members_succ {n : Nat} (hn : GivesWords n) (cs : List Char) :
    Gives (fun members => ∀ member ∈ members, HoldsWords member.2) (Json.members (n + 1) cs) := by
  rw [Json.members]
  split
  · split
    · exact gives_none
    · split
      · next valued _ =>
          split
          · exact gives_none
          · next x rest hread =>
              have hx := hn.value valued x rest hread
              split
              · rintro _ _ ⟨⟩
                intro member hmember
                rw [List.mem_singleton.1 hmember]
                exact hx
              · next more _ =>
                  exact (hn.members more).map fun _ hlater => List.forall_mem_cons.2 ⟨hx, hlater⟩
              · exact gives_none
      · exact gives_none
  · exact gives_none

theorem givesWords (n : Nat) : GivesWords n := by
  induction n with
  | zero => exact ⟨fun _ => gives_none, fun _ => gives_none, fun _ => gives_none⟩
  | succ n ih => exact ⟨ih.value_succ, ih.items_succ, ih.members_succ⟩

/-- A text that is read without a floating-point number is a value of whole numbers. -/
theorem isWhole_of_parse? {text : String} {v : Json} (hparsed : parse? text = some v)
    (hfloats : ∀ x, ¬Part (.float x) v) : v.isWhole = true := by
  unfold parse? at hparsed
  split at hparsed
  · next x rest hread =>
      obtain ⟨-, hsame⟩ := Option.ite_none_right_eq_some.1 hparsed
      cases hsame
      exact ((givesWords _).value _ _ rest hread).isWhole hfloats
  · cases hparsed

end Gatehouse.Json
