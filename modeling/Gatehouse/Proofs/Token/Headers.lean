import Gatehouse.Proofs.Json.Skipping
import Gatehouse.Proofs.Sequencing
import Gatehouse.Proofs.Token.Members

/-!
# The algorithm in a header

A header names an algorithm when that is the value of its member for it, and every name with a meaning
occurs at most once and with a value of the right type. Bytes are read as a header exactly when they are
an object of such members, or an array that gives one value to each name.
-/

namespace Gatehouse.Token

/-- A value that a name of a header may have. -/
def IsHint (name : String) (value : Json) : Prop := ∃ found, checkHint name value = .ok found

/-- Only the member for the algorithm gives one. -/
theorem checkHint_eq_ok {name : String} {value : Json} {found : Option String}
    (hhint : checkHint name value = .ok found) :
    found = if name = "alg" then choice? algorithmNames value else none := by
  unfold checkHint at hhint
  split at hhint
  · next halg =>
      rw [if_pos halg]
      split at hhint
      · next algorithm hchoice =>
          cases hhint
          exact hchoice.symm
      · cases hhint
  · next halg =>
      rw [if_neg halg]
      split at hhint
      · rw [if_pos rfl] at hhint
        cases hhint
        rfl
      · rw [if_neg Bool.false_ne_true] at hhint
        split at hhint
        · obtain ⟨_, -, hnone⟩ := map_eq_ok_iff.1 hhint
          exact hnone.symm
        · obtain ⟨-, hnone⟩ := ite_eq_ok_iff.1 hhint
          exact hnone.symm

namespace Header

/-- The rules for the names with a meaning. -/
def rules (name : String) : Option (Json → Prop) :=
  if name ∈ headerNames then some (IsHint name) else none

/-- The algorithm that members name. -/
def algorithm? (members : List (String × Json)) : Option String :=
  (valuesOf "alg" members).head?.bind (choice? algorithmNames)

theorem algorithm?_cons_alg (value : Json) (members : List (String × Json)) :
    algorithm? (("alg", value) :: members) = choice? algorithmNames value := by
  rw [algorithm?, valuesOf_cons_self]
  rfl

theorem algorithm?_cons_of_ne {name : String} (hname : name ≠ "alg") (value : Json)
    (members : List (String × Json)) : algorithm? ((name, value) :: members) = algorithm? members := by
  rw [algorithm?, valuesOf_cons_of_ne hname, algorithm?]

/-- The algorithm found in the first member, or else among the others, where there is none if the
first member was the one for it. -/
theorem algorithm?_cons {name : String} {value : Json} {members : List (String × Json)}
    (hrest : name = "alg" → valuesOf "alg" members = []) (before : Option String) :
    (algorithm? ((name, value) :: members)).or before =
      (algorithm? members).or
        ((if name = "alg" then choice? algorithmNames value else none).or before) := by
  by_cases halg : name = "alg"
  · have hnone : algorithm? members = none := by
      rw [algorithm?, hrest halg]
      rfl
    subst halg
    rw [algorithm?_cons_alg, hnone, if_pos rfl, Option.none_or]
  · rw [algorithm?_cons_of_ne halg, if_neg halg, Option.none_or]

/-- Members are read when they keep the rules, and name the algorithm if one of them does. -/
theorem readMembers_eq_ok_iff {seen : List String} {before after : Option String}
    {members : List (String × Json)} :
    (∃ names, readMembers seen before members = .ok (names, after)) ↔
      Keep rules seen members ∧ after = (algorithm? members).or before := by
  induction members generalizing seen before with
  | nil =>
      constructor
      · rintro ⟨names, hread⟩
        cases hread
        exact ⟨keep_nil _ _, rfl⟩
      · rintro ⟨-, rfl⟩
        exact ⟨seen, rfl⟩
  | cons member members ih =>
      obtain ⟨name, value⟩ := member
      rw [readMembers]
      by_cases hname : name ∈ headerNames
      · have hrule : rules name = some (IsHint name) := if_pos hname
        have hafter : ∀ hkeep : Keep rules (name :: seen) members,
            (algorithm? ((name, value) :: members)).or before = (algorithm? members).or
              ((if name = "alg" then choice? algorithmNames value else none).or before) := by
          intro hkeep
          refine algorithm?_cons (fun halg => ?_) before
          subst halg
          exact (hkeep "alg" _ hrule).1 List.mem_cons_self
        rw [keep_cons_of_some hrule]
        by_cases hseen : name ∈ seen
        · simp [hname, hseen]
        · simp only [List.contains_iff_mem.2 hname, Bool.not_true, Bool.false_eq_true, if_false,
            List.contains_iff_mem, hseen]
          constructor
          · rintro ⟨names, hread⟩
            obtain ⟨found, hhint, hread⟩ := bind_eq_ok_iff.1 hread
            obtain ⟨hkeep, hfound⟩ := ih.1 ⟨names, hread⟩
            refine ⟨⟨not_false, ⟨found, hhint⟩, hkeep⟩, ?_⟩
            rw [hafter hkeep, ← checkHint_eq_ok hhint, hfound]
            cases found <;> rfl
          · rintro ⟨⟨-, ⟨found, hhint⟩, hkeep⟩, hfound⟩
            rw [hafter hkeep, ← checkHint_eq_ok hhint] at hfound
            obtain ⟨names, hread⟩ := ih.2 ⟨hkeep, hfound⟩
            refine ⟨names, bind_eq_ok_iff.2 ⟨found, hhint, ?_⟩⟩
            cases found <;> exact hread
      · have hfree : rules name = none := if_neg hname
        have halg : name ≠ "alg" := by
          rintro rfl
          exact hname (by decide)
        rw [keep_cons_of_none hfree, algorithm?_cons_of_ne halg, ← ih]
        simp [hname]

/-- The members of a header name an algorithm: the one value for it is its name, and every name with a
meaning occurs at most once, with a value that it may have. -/
structure Names (members : List (String × Json)) (algorithm : String) : Prop where
  algorithm : ∃ value, valuesOf "alg" members = [value] ∧ choice? algorithmNames value = some algorithm
  hints : ∀ name ∈ headerNames, AtMostOne (IsHint name) (valuesOf name members)

/-- The members of bytes are those with a meaning of an object, whatever stands in the others, or the
values of an array with the names in their order. -/
def HasMembers (bytes : Bytes) (members : List (String × Json)) : Prop :=
  (∃ rest, Json.Raw.open? headerNames.contains bytes = some ⟨members, .closed rest⟩ ∧
    Json.skipSpace rest = []) ∨
    ∃ items, (Text.ofUtf8? bytes).bind Json.parse? = some (.arr items) ∧
      items.length = headerNames.length ∧ members = headerNames.zip items

/-- Bytes that begin with an object are not those of an array. -/
theorem ofUtf8?_bind_parse?_ne_arr {bytes : Bytes} {isWanted : String → Bool} {opening : Json.Opening}
    (hopened : Json.Raw.open? isWanted bytes = some opening) (items : List Json) :
    (Text.ofUtf8? bytes).bind Json.parse? ≠ some (.arr items) := by
  intro harray
  obtain ⟨text, htext, harray⟩ := Option.bind_eq_some_iff.1 harray
  rw [Text.ofUtf8?_eq_some_iff.1 htext] at hopened
  obtain ⟨opening', hobject⟩ := Option.isSome_iff_exists.1 (Json.Raw.isSome_ofText?_of_open? hopened)
  obtain ⟨ms, hobject⟩ := Json.exists_eq_obj_of_parse? hobject harray
  cases hobject

/-- Bytes have no more than one list of members. -/
theorem HasMembers.eq {bytes : Bytes} {members members' : List (String × Json)}
    (hleft : HasMembers bytes members) (hright : HasMembers bytes members') : members = members' := by
  rcases hleft with ⟨rest, hobject, -⟩ | ⟨items, harray, -, rfl⟩ <;>
    rcases hright with ⟨rest', hobject', -⟩ | ⟨items', harray', -, rfl⟩
  · rw [hobject] at hobject'
    exact congrArg Json.Opening.members (Option.some.inj hobject')
  · exact absurd harray' (ofUtf8?_bind_parse?_ne_arr hobject items')
  · exact absurd harray (ofUtf8?_bind_parse?_ne_arr hobject' items)
  · rw [harray] at harray'
    rw [Json.arr.inj (Option.some.inj harray')]

/-- The members with a meaning are found in the bytes of every object. -/
theorem hasMembers_of_parse? {text : String} {members : List (String × Json)}
    (hobject : Json.parse? text = some (.obj members)) :
    HasMembers (Text.utf8 text) (members.filter fun member => headerNames.contains member.1) := by
  obtain ⟨rest, hopened, hend⟩ := Json.parse?_eq_obj_iff.1 hobject
  refine .inl ⟨_, Json.Raw.open?_utf8 hopened headerNames.contains, ?_⟩
  rw [Json.Raw.skipSpace_spell, hend]
  rfl

theorem names_iff {members : List (String × Json)} {algorithm : String} :
    Names members algorithm ↔ ∃ names, readMembers [] none members = .ok (names, some algorithm) := by
  rw [readMembers_eq_ok_iff, keep_iff_of_seen_nil, Option.or_none]
  constructor
  · rintro ⟨⟨value, hvalues, hchoice⟩, hhints⟩
    refine ⟨fun name rule hrule => ?_, ?_⟩
    · obtain ⟨hname, hrule⟩ := Option.ite_none_right_eq_some.1 hrule
      cases hrule
      exact hhints name hname
    · rw [algorithm?, hvalues]
      exact hchoice.symm
  · rintro ⟨hkeep, halgorithm⟩
    have hhints : ∀ name ∈ headerNames, AtMostOne (IsHint name) (valuesOf name members) :=
      fun name hname => hkeep name _ (if_pos hname)
    refine ⟨?_, hhints⟩
    rcases hhints "alg" (by decide) with hnone | ⟨value, hvalue, -⟩
    · rw [algorithm?, hnone] at halgorithm
      cases halgorithm
    · rw [algorithm?, hvalue] at halgorithm
      exact ⟨value, hvalue, halgorithm.symm⟩

theorem ofOpening_eq_ok_iff {opening : Json.Opening} {algorithm : String} :
    ofOpening opening = .ok ⟨algorithm⟩ ↔
      Names opening.members algorithm ∧
        ∃ rest, opening.ending = .closed rest ∧ Json.skipSpace rest = [] := by
  rw [ofOpening, bind_eq_ok_iff, names_iff]
  constructor
  · rintro ⟨⟨seen, found⟩, hmembers, hread⟩
    cases hending : opening.ending with
    | closed rest =>
        rw [hending] at hread
        obtain ⟨named, hnamed, hread⟩ := bind_eq_ok_iff.1 hread
        obtain ⟨hend, hsame⟩ := ite_eq_ok_iff.1 hread
        cases hsame
        cases required_eq_ok_iff.1 hnamed
        exact ⟨⟨seen, hmembers⟩, rest, rfl, hend⟩
    | named name =>
        rw [hending] at hread
        cases hread
    | broken =>
        rw [hending] at hread
        cases hread
  · rintro ⟨⟨seen, hmembers⟩, rest, hending, hend⟩
    refine ⟨_, hmembers, ?_⟩
    dsimp only
    rw [hending]
    exact bind_eq_ok_iff.2 ⟨algorithm, rfl, if_pos hend⟩

/-- Bytes are read as a header when they have members that name an algorithm. -/
theorem read_eq_ok_iff {bytes : Bytes} {algorithm : String} :
    read bytes = .ok ⟨algorithm⟩ ↔ ∃ members, HasMembers bytes members ∧ Names members algorithm := by
  unfold read
  cases hopened : Json.Raw.open? headerNames.contains bytes with
  | some opening =>
      dsimp only
      rw [ofOpening_eq_ok_iff]
      constructor
      · rintro ⟨hnames, rest, hending, hend⟩
        obtain ⟨members, ending⟩ := opening
        cases hending
        exact ⟨members, .inl ⟨rest, hopened, hend⟩, hnames⟩
      · rintro ⟨members, ⟨rest, hobject, hend⟩ | ⟨items, harray, -, -⟩, hnames⟩
        · rw [hopened] at hobject
          cases hobject
          exact ⟨hnames, rest, rfl, hend⟩
        · exact absurd harray (ofUtf8?_bind_parse?_ne_arr hopened items)
  | none =>
      constructor
      · intro hread
        dsimp only at hread
        split at hread
        · next items harray =>
            split at hread
            · next hlength =>
                obtain ⟨⟨seen, found⟩, hmembers, hnamed⟩ := bind_eq_ok_iff.1 hread
                obtain ⟨named, hfound, hsame⟩ := map_eq_ok_iff.1 hnamed
                cases hsame
                cases required_eq_ok_iff.1 hfound
                exact ⟨_, .inr ⟨items, harray, hlength, rfl⟩, names_iff.2 ⟨seen, hmembers⟩⟩
            · cases hread
        · cases hread
      · rintro ⟨members, ⟨rest, hobject, -⟩ | ⟨items, harray, hlength, rfl⟩, hnames⟩
        · rw [hopened] at hobject
          cases hobject
        · obtain ⟨seen, hmembers⟩ := names_iff.1 hnames
          dsimp only
          rw [harray]
          dsimp only
          rw [if_pos hlength]
          exact bind_eq_ok_iff.2 ⟨_, hmembers, rfl⟩

end Header

end Gatehouse.Token
