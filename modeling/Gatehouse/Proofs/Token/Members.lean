import Gatehouse.Token.Header

/-!
# Members by name

A reader of an object goes through its members in the order of the text and has rules for some names.
What it accepts depends on the values of each name alone: how many there are, and whether they have the
right type.
-/

namespace Gatehouse.Token

/-- The values of the members with a name, in their order. -/
def valuesOf (name : String) (members : List (String × Json)) : List Json :=
  (members.filter fun member => member.1 = name).map Prod.snd

@[simp] theorem valuesOf_nil (name : String) : valuesOf name [] = [] := rfl

@[simp] theorem valuesOf_cons_self (name : String) (value : Json) (members : List (String × Json)) :
    valuesOf name ((name, value) :: members) = value :: valuesOf name members := by
  simp [valuesOf]

theorem valuesOf_cons_of_ne {name other : String} (hne : other ≠ name) (value : Json)
    (members : List (String × Json)) :
    valuesOf name ((other, value) :: members) = valuesOf name members := by
  simp [valuesOf, hne]

/-- A name that no member has stands for no value. -/
theorem valuesOf_eq_nil {name : String} {members : List (String × Json)}
    (hnone : ∀ member ∈ members, member.1 ≠ name) : valuesOf name members = [] := by
  have hfiltered : (members.filter fun member => member.1 = name) = [] := by
    rw [List.filter_eq_nil_iff]
    intro member hmember hnamed
    exact hnone member hmember (of_decide_eq_true hnamed)
  rw [valuesOf, hfiltered]
  rfl

/-- There is at most one value, and it has a property. -/
def AtMostOne (p : Json → Prop) (values : List Json) : Prop :=
  values = [] ∨ ∃ value, values = [value] ∧ p value

theorem atMostOne_nil (p : Json → Prop) : AtMostOne p [] := .inl rfl

theorem atMostOne_cons_iff {p : Json → Prop} {value : Json} {values : List Json} :
    AtMostOne p (value :: values) ↔ p value ∧ values = [] := by
  constructor
  · rintro (hnil | ⟨only, hone, hp⟩)
    · cases hnil
    · cases hone
      exact ⟨hp, rfl⟩
  · rintro ⟨hp, rfl⟩
    exact .inr ⟨value, rfl, hp⟩

theorem required_eq_ok_iff {α : Type} {name : String} {found : Option α} {a : α} :
    required name found = .ok a ↔ found = some a := by
  cases found <;> simp [required]

/-! ## One rule for each name -/

/-- The members keep the rules: a name that has one occurs at most once, not at all if it was seen
before, and its value is as the rule says. -/
def Keep (rules : String → Option (Json → Prop)) (seen : List String)
    (members : List (String × Json)) : Prop :=
  ∀ name rule, rules name = some rule →
    (name ∈ seen → valuesOf name members = []) ∧ AtMostOne rule (valuesOf name members)

theorem keep_nil (rules : String → Option (Json → Prop)) (seen : List String) :
    Keep rules seen [] :=
  fun _ rule _ => ⟨fun _ => rfl, atMostOne_nil rule⟩

/-- A member whose name has no rule changes nothing. -/
theorem keep_cons_of_none {rules : String → Option (Json → Prop)} {seen : List String}
    {name : String} (hfree : rules name = none) (value : Json) (members : List (String × Json)) :
    Keep rules seen ((name, value) :: members) ↔ Keep rules seen members := by
  have hsame : ∀ other rule, rules other = some rule →
      valuesOf other ((name, value) :: members) = valuesOf other members := by
    intro other rule hrule
    have hne : name ≠ other := by
      rintro rfl
      rw [hfree] at hrule
      cases hrule
    exact valuesOf_cons_of_ne hne value members
  constructor
  · intro hkeep other rule hrule
    rw [← hsame other rule hrule]
    exact hkeep other rule hrule
  · intro hkeep other rule hrule
    rw [hsame other rule hrule]
    exact hkeep other rule hrule

/-- A member whose name has a rule keeps it when the name is new and the value as it should be, and is
then among those seen before. -/
theorem keep_cons_of_some {rules : String → Option (Json → Prop)} {seen : List String}
    {name : String} {rule : Json → Prop} (hrule : rules name = some rule) (value : Json)
    (members : List (String × Json)) :
    Keep rules seen ((name, value) :: members) ↔
      name ∉ seen ∧ rule value ∧ Keep rules (name :: seen) members := by
  constructor
  · intro hkeep
    obtain ⟨hnew, hone⟩ := hkeep name rule hrule
    rw [valuesOf_cons_self] at hnew hone
    obtain ⟨hvalue, hnone⟩ := atMostOne_cons_iff.1 hone
    refine ⟨fun hseen => List.cons_ne_nil _ _ (hnew hseen), hvalue, ?_⟩
    intro other otherRule hother
    by_cases hname : other = name
    · subst hname
      exact ⟨fun _ => hnone, .inl hnone⟩
    · obtain ⟨hbefore, hvalues⟩ := hkeep other otherRule hother
      rw [valuesOf_cons_of_ne (Ne.symm hname)] at hbefore hvalues
      exact ⟨fun hseen => hbefore ((List.mem_cons.1 hseen).resolve_left hname), hvalues⟩
  · rintro ⟨hnew, hvalue, hkeep⟩ other otherRule hother
    by_cases hname : other = name
    · subst hname
      rw [hrule] at hother
      cases hother
      have hnone := (hkeep other rule hrule).1 List.mem_cons_self
      rw [valuesOf_cons_self, hnone]
      exact ⟨fun hseen => absurd hseen hnew, atMostOne_cons_iff.2 ⟨hvalue, rfl⟩⟩
    · obtain ⟨hbefore, hvalues⟩ := hkeep other otherRule hother
      rw [valuesOf_cons_of_ne (Ne.symm hname)]
      exact ⟨fun hseen => hbefore (List.mem_cons_of_mem _ hseen), hvalues⟩

theorem keep_iff_of_seen_nil {rules : String → Option (Json → Prop)}
    {members : List (String × Json)} :
    Keep rules [] members ↔
      ∀ name rule, rules name = some rule → AtMostOne rule (valuesOf name members) := by
  constructor
  · intro hkeep name rule hrule
    exact (hkeep name rule hrule).2
  · intro hone name rule hrule
    exact ⟨fun hseen => absurd hseen List.not_mem_nil, hone name rule hrule⟩

/-- A name is looked up in a list of names, each with what belongs to it. -/
theorem lookup_map_pair {α : Type} (names : List String) (f : String → α) (name : String) :
    (names.map fun other => (other, f other)).lookup name =
      if name ∈ names then some (f name) else none := by
  induction names with
  | nil => rfl
  | cons other names ih =>
      rw [List.map_cons, List.lookup_cons, ih]
      by_cases hsame : name = other
      · simp [hsame]
      · have hother : (name == other) = false := beq_eq_false_iff_ne.2 hsame
        simp [hsame, hother]

/-- The rules of a list of types. -/
def typeRules (types : List (String × (Json → Bool))) (name : String) : Option (Json → Prop) :=
  (types.lookup name).map fun isTyped value => isTyped value = true

/-- Members pass the check of their types when they keep them as rules. -/
theorem checkMembers_eq_ok_iff {types : List (String × (Json → Bool))} {seen : List String}
    {members : List (String × Json)} :
    checkMembers types seen members = .ok () ↔ Keep (typeRules types) seen members := by
  induction members generalizing seen with
  | nil => exact iff_of_true rfl (keep_nil _ _)
  | cons member members ih =>
      obtain ⟨name, value⟩ := member
      rw [checkMembers]
      cases htype : types.lookup name with
      | none =>
          have hfree : typeRules types name = none := by
            rw [typeRules, htype]
            rfl
          rw [keep_cons_of_none hfree]
          exact ih
      | some isTyped =>
          have hrule : typeRules types name = some fun value => isTyped value = true := by
            rw [typeRules, htype]
            rfl
          rw [keep_cons_of_some hrule, ← ih]
          simp only [List.contains_iff_mem]
          by_cases hseen : name ∈ seen
          · simp [hseen]
          · cases hvalue : isTyped value <;> simp [hseen]

end Gatehouse.Token
