import Gatehouse.Proofs.Json.Scalars

/-!
# JSON through its text

A value that was written is read back, arrays item by item and objects member by member. The text of an
object is read back as a whole and one member at a time. Floating-point numbers are left out: they have
many texts.
-/

namespace Gatehouse.Json

/-! ## Values -/

mutual

/-- Whether all numbers in a value are whole and in the range of the two kinds of 64-bit words. -/
def isWhole : Json → Bool
  | .int n => Int64.minValue.toInt ≤ n && n < UInt64.size
  | .float _ => false
  | .arr items => areWhole items
  | .obj members => haveWhole members
  | _ => true

/-- Whether all numbers in some items are so. -/
def areWhole : List Json → Bool
  | [] => true
  | item :: items => isWhole item && areWhole items

/-- Whether all numbers in some members are so. -/
def haveWhole : List (String × Json) → Bool
  | [] => true
  | (_, value) :: members => isWhole value && haveWhole members

end

theorem isWhole_obj_iff {members : List (String × Json)} :
    isWhole (.obj members) = true ↔ ∀ member ∈ members, isWhole member.2 = true := by
  rw [isWhole]
  induction members with
  | nil => exact iff_of_true rfl nofun
  | cons member members ih => rw [haveWhole, Bool.and_eq_true, List.forall_mem_cons, ih]

theorem isWhole_int64 (n : Int64) : isWhole (.int n.toInt) = true := by
  have hsize : UInt64.size = 0x10000000000000000 := rfl
  have hhigh : n.toInt < UInt64.size := by
    have hbound := n.toInt_lt
    omega
  simp only [isWhole, Bool.and_eq_true, decide_eq_true_eq]
  exact ⟨n.minValue_le_toInt, hhigh⟩

theorem isWhole_uint64 (n : UInt64) : isWhole (.int n.toNat) = true := by
  have hleast : Int64.minValue.toInt ≤ 0 := by decide
  have hhigh := n.toNat_lt_size
  simp only [isWhole, Bool.and_eq_true, decide_eq_true_eq]
  omega

theorem skipSpace_cons {c : Char} (hc : isSpace c = false) (rest : List Char) :
    skipSpace (c :: rest) = c :: rest := by
  rw [skipSpace, List.dropWhile_cons_of_neg (by simp [hc])]

/-- A character that a value may begin with: no blank, and not as an array or an object ends. -/
def startsValue (c : Char) : Bool := !isSpace c && c ≠ ']' && c ≠ '\x7d'

/-- A character that a number begins with. -/
def startsNumber (c : Char) : Bool := c = '-' || c.isDigit

theorem isSpace_of_startsValue {c : Char} (hc : startsValue c = true) : isSpace c = false := by
  simp only [startsValue, Bool.and_eq_true, Bool.not_eq_true'] at hc
  exact hc.1.1

theorem startsValue_of_startsNumber {c : Char} (hc : startsNumber c = true) :
    startsValue c = true := by
  have hne {d : Char} (hd : startsNumber d = false) : c ≠ d := by
    rintro rfl
    rw [hc] at hd
    cases hd
  have hspace : isSpace c = false := by simp [isSpace, hne (d := ' ') rfl, hne (d := '\n') rfl,
    hne (d := '\t') rfl, hne (d := '\r') rfl]
  simp [startsValue, hspace, hne (d := ']') rfl, hne (d := '\x7d') rfl]

theorem exists_digits_eq_cons (n : Nat) :
    ∃ c cs, Number.digits n = c :: cs ∧ startsNumber c = true := by
  obtain ⟨c, cs, hdigits, hc⟩ := Number.exists_digits_eq_cons n
  exact ⟨c, cs, hdigits, by simp [startsNumber, hc]⟩

theorem exists_print_eq_cons {v : Json} (hwhole : isWhole v = true) :
    ∃ c cs, print v = c :: cs ∧ startsValue c = true := by
  cases v with
  | null => exact ⟨_, _, rfl, rfl⟩
  | bool value =>
    cases value with
    | true => exact ⟨_, _, rfl, rfl⟩
    | false => exact ⟨_, _, rfl, rfl⟩
  | int n =>
      cases n with
      | ofNat n =>
          obtain ⟨c, cs, hdigits, hc⟩ := exists_digits_eq_cons n
          exact ⟨c, cs, hdigits, startsValue_of_startsNumber hc⟩
      | negSucc n => exact ⟨_, _, rfl, rfl⟩
  | float x => cases hwhole
  | str s => exact ⟨_, _, rfl, rfl⟩
  | arr items =>
      cases items with
      | nil => exact ⟨_, _, rfl, rfl⟩
      | cons item items => exact ⟨_, _, rfl, rfl⟩
  | obj members =>
      cases members with
      | nil => exact ⟨_, _, rfl, rfl⟩
      | cons member members => exact ⟨_, _, rfl, rfl⟩

/-- A number is the only value that begins with a minus sign or a digit. -/
theorem value_of_number {c : Char} (hc : startsNumber c = true) (fuel : Nat) (cs : List Char) :
    value (fuel + 1) (c :: cs) = number (c :: cs) := by
  have hspace := isSpace_of_startsValue (startsValue_of_startsNumber hc)
  rw [value, skipSpace_cons hspace]
  split
  · next h =>
      cases h
      cases hc
  · next h =>
      cases h
      cases hc
  · next h =>
      cases h
      cases hc
  · next h =>
      cases h
      cases hc
  · next h =>
      cases h
      cases hc
  · next h =>
      cases h
      cases hc
  · rfl

theorem value_quote (fuel : Nat) (rest : List Char) :
    value (fuel + 1) ('"' :: rest) =
      (stringBody rest).map fun (s, left) => (.str (String.ofList s), left) := rfl

theorem value_bracket (fuel : Nat) {item : Json} (hwhole : isWhole item = true)
    (more : List Char) :
    value (fuel + 1) ('[' :: (print item ++ more)) =
      (items fuel (print item ++ more)).map fun (xs, left) => (.arr xs, left) := by
  obtain ⟨c, cs, hprint, hc⟩ := exists_print_eq_cons hwhole
  rw [value, skipSpace_cons (c := '[') rfl, hprint, List.cons_append]
  split
  · next h => cases h
  · next h => cases h
  · next h => cases h
  · next h => cases h
  · next h =>
      cases h
      rw [skipSpace_cons (isSpace_of_startsValue hc)]
      split
      · next h =>
          cases h
          cases hc
      · rfl
  · next h => cases h
  · next hother _ => exact absurd rfl (hother _)

theorem value_brace (fuel : Nat) (name : String) (more : List Char) :
    value (fuel + 1) ('\x7b' :: (printString name ++ more)) =
      (members fuel (printString name ++ more)).map fun (ms, left) => (.obj ms, left) := rfl

/-- The last member of an object. -/
theorem members_last {fuel : Nat} {cs rest : List Char} {x : Json} (name : String)
    (hvalue : value fuel cs = some (x, '\x7d' :: rest)) :
    members (fuel + 1) (printString name ++ ':' :: cs) = some ([(name, x)], rest) := by
  have hname := stringBody_flatMap name.toList (':' :: cs)
  rw [printString_append, members, skipSpace_cons (c := '"') rfl]
  simp only [hname, skipSpace_cons (c := ':') rfl, hvalue, String.ofList_toList]
  rfl

/-- A member of an object with others behind it. -/
theorem members_more {fuel : Nat} {cs more rest : List Char} {x : Json}
    {later : List (String × Json)} (name : String) (hvalue : value fuel cs = some (x, ',' :: more))
    (hlater : members fuel more = some (later, rest)) :
    members (fuel + 1) (printString name ++ ':' :: cs) = some ((name, x) :: later, rest) := by
  have hname := stringBody_flatMap name.toList (':' :: cs)
  rw [printString_append, members, skipSpace_cons (c := '"') rfl]
  simp only [hname, skipSpace_cons (c := ':') rfl, hvalue, String.ofList_toList]
  change (members fuel more).map _ = _
  rw [hlater]
  rfl

theorem value_printString (fuel : Nat) (s : String) (rest : List Char) :
    value (fuel + 1) (printString s ++ rest) = some (.str s, rest) := by
  rw [printString_append, value_quote, stringBody_flatMap, Option.map_some]
  dsimp only
  rw [String.ofList_toList]

theorem value_signed (fuel : Nat) {n : Int} (hlow : Int64.minValue.toInt ≤ n) (hhigh : n < UInt64.size)
    {rest : List Char} (hrest : EndsNumber rest) :
    value (fuel + 1) (Number.signed n ++ rest) = some (.int n, rest) := by
  have hnumber := number_signed hlow hhigh hrest
  cases n with
  | ofNat n =>
      obtain ⟨c, cs, hdigits, hc⟩ := exists_digits_eq_cons n
      rw [Number.signed, hdigits, List.cons_append] at hnumber ⊢
      rw [value_of_number hc, hnumber]
  | negSucc n =>
      rw [Number.signed, List.cons_append] at hnumber ⊢
      rw [value_of_number rfl, hnumber]

/-- Behind an item an array goes on or ends, and not with a number. -/
theorem endsNumber_printItems (items : List Json) (rest : List Char) :
    EndsNumber (printItems items ++ rest) := by
  cases items with
  | nil => exact endsNumber_cons rfl rest
  | cons item items => exact endsNumber_cons rfl _

theorem endsNumber_printMembers (members : List (String × Json)) (rest : List Char) :
    EndsNumber (printMembers members ++ rest) := by
  cases members with
  | nil => exact endsNumber_cons rfl rest
  | cons member members => exact endsNumber_cons rfl _

theorem length_print_pos {v : Json} (hwhole : isWhole v = true) : 0 < (print v).length := by
  obtain ⟨c, cs, hprint, -⟩ := exists_print_eq_cons hwhole
  rw [hprint]
  exact Nat.succ_pos _

theorem length_printItems_pos (items : List Json) : 0 < (printItems items).length := by
  cases items with
  | nil => exact Nat.succ_pos _
  | cons item items => exact Nat.succ_pos _

theorem length_printMembers_pos (members : List (String × Json)) :
    0 < (printMembers members).length := by
  cases members with
  | nil => exact Nat.succ_pos _
  | cons member members => exact Nat.succ_pos _

mutual

/-- A value is read back from its text, with as many steps as the text has characters. -/
theorem value_print (v : Json) (hwhole : isWhole v = true) (fuel : Nat) (rest : List Char)
    (hfuel : (print v).length ≤ fuel) (hrest : EndsNumber rest) :
    value fuel (print v ++ rest) = some (v, rest) := by
  have hpos := length_print_pos hwhole
  obtain ⟨fuel, rfl⟩ : ∃ more, fuel = more + 1 := ⟨fuel - 1, by omega⟩
  match v with
  | .null => rfl
  | .bool true => rfl
  | .bool false => rfl
  | .int n =>
      rw [isWhole, Bool.and_eq_true, decide_eq_true_eq, decide_eq_true_eq] at hwhole
      exact value_signed fuel hwhole.1 hwhole.2 hrest
  | .float x => cases hwhole
  | .str s => exact value_printString fuel s rest
  | .arr [] => rfl
  | .arr (item :: later) =>
      rw [isWhole, areWhole, Bool.and_eq_true] at hwhole
      have hitem := length_print_pos hwhole.1
      have hlater := length_printItems_pos later
      simp only [print, List.length_cons, List.length_append] at hfuel
      obtain ⟨fuel, rfl⟩ : ∃ more, fuel = more + 1 := ⟨fuel - 1, by omega⟩
      have hvalue := value_print item hwhole.1 fuel (printItems later ++ rest) (by omega)
        (endsNumber_printItems later rest)
      have hitems := items_of_value later hwhole.2 fuel _ item rest (by omega) hvalue
      have htext : print (.arr (item :: later)) ++ rest =
          '[' :: (print item ++ (printItems later ++ rest)) := by simp [print]
      rw [htext, value_bracket _ hwhole.1, hitems]
      rfl
  | .obj [] => rfl
  | .obj ((name, held) :: later) =>
      rw [isWhole, haveWhole, Bool.and_eq_true] at hwhole
      have hheld := length_print_pos hwhole.1
      have hlater := length_printMembers_pos later
      simp only [print, List.length_cons, List.length_append] at hfuel
      obtain ⟨fuel, rfl⟩ : ∃ more, fuel = more + 1 := ⟨fuel - 1, by omega⟩
      have hvalue := value_print held hwhole.1 fuel (printMembers later ++ rest) (by omega)
        (endsNumber_printMembers later rest)
      have hmembers := members_of_value later hwhole.2 fuel name _ held rest (by omega) hvalue
      have htext : print (.obj ((name, held) :: later)) ++ rest =
          '\x7b' :: (printString name ++ ':' :: (print held ++ (printMembers later ++ rest))) := by
        simp [print]
      rw [htext, value_brace, hmembers]
      rfl

/-- Once an item is read, the items behind it are. -/
theorem items_of_value (later : List Json) (hwhole : areWhole later = true) (fuel : Nat)
    (cs : List Char) (x : Json) (rest : List Char) (hfuel : (printItems later).length ≤ fuel + 1)
    (hvalue : value fuel cs = some (x, printItems later ++ rest)) :
    items (fuel + 1) cs = some (x :: later, rest) := by
  match later with
  | [] =>
      rw [items, hvalue]
      rfl
  | y :: later =>
      rw [areWhole, Bool.and_eq_true] at hwhole
      have hy := length_print_pos hwhole.1
      have hlater := length_printItems_pos later
      simp only [printItems, List.length_cons, List.length_append] at hfuel
      obtain ⟨fuel, rfl⟩ : ∃ more, fuel = more + 1 := ⟨fuel - 1, by omega⟩
      have hnext := value_print y hwhole.1 fuel (printItems later ++ rest) (by omega)
        (endsNumber_printItems later rest)
      have hitems := items_of_value later hwhole.2 fuel _ y rest (by omega) hnext
      have htext : printItems (y :: later) ++ rest =
          ',' :: (print y ++ (printItems later ++ rest)) := by simp [printItems]
      rw [items, hvalue, htext]
      change (items (fuel + 1) _).map _ = _
      rw [hitems]
      rfl

/-- Once the value of a member is read, the members behind it are. -/
theorem members_of_value (later : List (String × Json)) (hwhole : haveWhole later = true)
    (fuel : Nat) (name : String) (cs : List Char) (x : Json) (rest : List Char)
    (hfuel : (printMembers later).length ≤ fuel + 1)
    (hvalue : value fuel cs = some (x, printMembers later ++ rest)) :
    members (fuel + 1) (printString name ++ ':' :: cs) = some ((name, x) :: later, rest) := by
  match later with
  | [] => exact members_last name hvalue
  | (other, y) :: later =>
      rw [haveWhole, Bool.and_eq_true] at hwhole
      have hy := length_print_pos hwhole.1
      have hlater := length_printMembers_pos later
      simp only [printMembers, List.length_cons, List.length_append] at hfuel
      obtain ⟨fuel, rfl⟩ : ∃ more, fuel = more + 1 := ⟨fuel - 1, by omega⟩
      have hnext := value_print y hwhole.1 fuel (printMembers later ++ rest) (by omega)
        (endsNumber_printMembers later rest)
      have hmembers := members_of_value later hwhole.2 fuel other _ y rest (by omega) hnext
      have htext : printMembers ((other, y) :: later) ++ rest =
          ',' :: (printString other ++ ':' :: (print y ++ (printMembers later ++ rest))) := by
        simp [printMembers]
      rw [htext] at hvalue
      exact members_more name hvalue hmembers

end

theorem read_print {v : Json} (hwhole : isWhole v = true) {rest : List Char}
    (hrest : EndsNumber rest) : read (print v ++ rest) = some (v, rest) := by
  have hfuel : (print v).length ≤ (print v ++ rest).length + 1 := by
    rw [List.length_append]
    omega
  exact value_print v hwhole _ rest hfuel hrest

/-- A value of whole numbers is read back from its compact text. -/
theorem parse?_compact {v : Json} (hwhole : isWhole v = true) : parse? v.compact = some v := by
  have hread := read_print hwhole endsNumber_nil
  rw [List.append_nil] at hread
  rw [parse?, compact, String.toList_ofList, hread]
  rfl

/-! ## Objects, one member at a time -/

theorem openMembers_last {fuel : Nat} {cs rest : List Char} {x : Json} (name : String)
    (hread : read cs = some (x, '\x7d' :: rest)) :
    openMembers (fuel + 1) (printString name ++ ':' :: cs) = ⟨[(name, x)], .closed rest⟩ := by
  have hname := stringBody_flatMap name.toList (':' :: cs)
  rw [printString_append, openMembers, skipSpace_cons (c := '"') rfl]
  simp only [hname, skipSpace_cons (c := ':') rfl, hread, String.ofList_toList]
  rfl

theorem openMembers_more {fuel : Nat} {cs more : List Char} {x : Json} {later : Opening}
    (name : String) (hread : read cs = some (x, ',' :: more))
    (hlater : openMembers fuel more = later) :
    openMembers (fuel + 1) (printString name ++ ':' :: cs) =
      ⟨(name, x) :: later.members, later.ending⟩ := by
  have hname := stringBody_flatMap name.toList (':' :: cs)
  rw [printString_append, openMembers, skipSpace_cons (c := '"') rfl, ← hlater]
  simp only [hname, skipSpace_cons (c := ':') rfl, hread, String.ofList_toList]
  rfl

/-- The members of an object are read one by one, up to the closing brace. -/
theorem openMembers_print {name : String} {x : Json} {later : List (String × Json)}
    (hx : isWhole x = true) (hlater : haveWhole later = true) {fuel : Nat} (rest : List Char)
    (hfuel : later.length < fuel) :
    openMembers fuel (printString name ++ ':' :: (print x ++ (printMembers later ++ rest))) =
      ⟨(name, x) :: later, .closed rest⟩ := by
  induction later generalizing name x fuel with
  | nil =>
      obtain ⟨fuel, rfl⟩ : ∃ more, fuel = more + 1 := ⟨fuel - 1, by omega⟩
      exact openMembers_last name (read_print hx (endsNumber_printMembers [] rest))
  | cons member later ih =>
      obtain ⟨other, y⟩ := member
      obtain ⟨fuel, rfl⟩ : ∃ more, fuel = more + 1 := ⟨fuel - 1, by omega⟩
      rw [haveWhole, Bool.and_eq_true] at hlater
      rw [List.length_cons] at hfuel
      have hmore : openMembers fuel
          (printString other ++ ':' :: (print y ++ (printMembers later ++ rest))) =
            ⟨(other, y) :: later, .closed rest⟩ := ih hlater.1 hlater.2 (by omega)
      have htext : printMembers ((other, y) :: later) ++ rest =
          ',' :: (printString other ++ ':' :: (print y ++ (printMembers later ++ rest))) := by
        simp [printMembers]
      have hread := read_print hx (endsNumber_printMembers ((other, y) :: later) rest)
      rw [htext] at hread ⊢
      exact openMembers_more name hread hmore

theorem length_le_length_printMembers (members : List (String × Json)) :
    members.length ≤ (printMembers members).length := by
  induction members with
  | nil => exact Nat.zero_le _
  | cons member members ih =>
      rw [printMembers]
      simp only [List.length_append, List.length_cons]
      omega

/-- The compact text of an object opens with all its members and ends at its brace. -/
theorem ofText?_print {members : List (String × Json)} (hwhole : haveWhole members = true) :
    Opening.ofText? (print (.obj members)) = some ⟨members, .closed []⟩ := by
  cases members with
  | nil => rfl
  | cons member later =>
      obtain ⟨name, x⟩ := member
      rw [haveWhole, Bool.and_eq_true] at hwhole
      have htext : print (.obj ((name, x) :: later)) =
          '\x7b' :: (printString name ++ ':' :: (print x ++ (printMembers later ++ []))) := by
        simp [print]
      have hlength := length_le_length_printMembers later
      rw [htext, Opening.ofText?, skipSpace_cons (c := '\x7b') rfl]
      change some (openMembers _ _) = _
      rw [openMembers_print hwhole.1 hwhole.2]
      simp only [List.length_append, List.length_cons]
      omega

end Gatehouse.Json
