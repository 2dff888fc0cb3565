import Gatehouse.Proofs.Json.Progress
import Gatehouse.Proofs.Sequencing
import Gatehouse.Proofs.Token.Members
import Gatehouse.Token.Verifier

/-!
# The claims in a payload

A payload is what the members of an object say: each of the four claims once and with its type, and the
other members as they are. A text is read as a payload exactly when it is such an object.
-/

namespace Gatehouse.Token

/-! ## One claim -/

theorem readOnce_eq_ok_iff {α : Type} {name : String} {before found : Option α} {a : α} :
    readOnce name before found = .ok a ↔ before = none ∧ found = some a := by
  cases before <;> cases found <;> simp [readOnce]

theorem not_mem_requiredClaims {name : String} : name ∉ requiredClaims ↔
    name ≠ "user_id" ∧ name ≠ "username" ∧ name ≠ "iat" ∧ name ≠ "exp" := by
  simp [requiredClaims]

namespace Draft

/-- The value that was read of a claim. -/
def value? (draft : Draft) (name : String) : Option Json :=
  if name = "user_id" then draft.userId.map fun n => .int n.toInt
  else if name = "username" then draft.username.map .str
  else if name = "iat" then draft.iat.map fun n => .int n.toInt
  else if name = "exp" then draft.exp.map fun n => .int n.toInt
  else none

theorem map_int_injective : Function.Injective (Option.map fun n : Int64 => Json.int n.toInt) :=
  Option.map_injective fun _ _ heq => Int64.toInt_inj.1 (Json.int.inj heq)

theorem map_str_injective : Function.Injective (Option.map Json.str) :=
  Option.map_injective fun _ _ heq => Json.str.inj heq

/-- Nothing else is in a draft than the values of the claims and the other members. -/
theorem eq_of_values {a b : Draft} (hvalues : ∀ name ∈ requiredClaims, a.value? name = b.value? name)
    (hothers : a.others = b.others) : a = b := by
  have huser := map_int_injective (hvalues "user_id" (by decide))
  have hname := map_str_injective (hvalues "username" (by decide))
  have hiat := map_int_injective (hvalues "iat" (by decide))
  have hexp := map_int_injective (hvalues "exp" (by decide))
  cases a
  cases b
  simp_all

/-- A claim that is read was not read before; everything else stays. -/
theorem add_required {before after : Draft} {name : String} {value : Json}
    (hname : name ∈ requiredClaims) (hadd : before.add name value = .ok after) :
    before.value? name = none ∧ after.value? name = some value ∧
      (∀ other, other ≠ name → after.value? other = before.value? other) ∧
      after.others = before.others := by
  simp only [requiredClaims, List.mem_cons, List.not_mem_nil, or_false] at hname
  rcases hname with rfl | rfl | rfl | rfl
  · obtain ⟨n, hread, rfl⟩ := map_eq_ok_iff.1 hadd
    obtain ⟨hnone, hvalue⟩ := readOnce_eq_ok_iff.1 hread
    rw [Json.int64?_eq_some_iff.1 hvalue]
    refine ⟨by simp [value?, hnone], rfl, fun other hother => ?_, rfl⟩
    simp [value?, hother]
  · obtain ⟨s, hread, rfl⟩ := map_eq_ok_iff.1 hadd
    obtain ⟨hnone, hvalue⟩ := readOnce_eq_ok_iff.1 hread
    rw [Json.text?_eq_some_iff.1 hvalue]
    refine ⟨by simp [value?, hnone], rfl, fun other hother => ?_, rfl⟩
    simp [value?, hother]
  · obtain ⟨n, hread, rfl⟩ := map_eq_ok_iff.1 hadd
    obtain ⟨hnone, hvalue⟩ := readOnce_eq_ok_iff.1 hread
    rw [Json.int64?_eq_some_iff.1 hvalue]
    refine ⟨by simp [value?, hnone], rfl, fun other hother => ?_, rfl⟩
    simp [value?, hother]
  · obtain ⟨n, hread, rfl⟩ := map_eq_ok_iff.1 hadd
    obtain ⟨hnone, hvalue⟩ := readOnce_eq_ok_iff.1 hread
    rw [Json.int64?_eq_some_iff.1 hvalue]
    refine ⟨by simp [value?, hnone], rfl, fun other hother => ?_, rfl⟩
    simp [value?, hother]

/-- A claim is read when it was not read before and its value is one that a draft can have there. -/
theorem exists_add_eq_ok {before other : Draft} {name : String} {value : Json}
    (hname : name ∈ requiredClaims) (hnone : before.value? name = none)
    (hvalue : other.value? name = some value) : ∃ after, before.add name value = .ok after := by
  simp only [requiredClaims, List.mem_cons, List.not_mem_nil, or_false] at hname
  rcases hname with rfl | rfl | rfl | rfl
  · obtain ⟨n, -, hint⟩ := Option.map_eq_some_iff.1 hvalue
    have hread : readOnce "user_id" before.userId (Json.int64? value) = .ok n :=
      readOnce_eq_ok_iff.2 ⟨Option.map_eq_none_iff.1 hnone, Json.int64?_eq_some_iff.2 hint.symm⟩
    exact ⟨_, map_eq_ok_iff.2 ⟨n, hread, rfl⟩⟩
  · obtain ⟨s, -, hstr⟩ := Option.map_eq_some_iff.1 hvalue
    have hread : readOnce "username" before.username (Json.text? value) = .ok s :=
      readOnce_eq_ok_iff.2 ⟨Option.map_eq_none_iff.1 hnone, Json.text?_eq_some_iff.2 hstr.symm⟩
    exact ⟨_, map_eq_ok_iff.2 ⟨s, hread, rfl⟩⟩
  · obtain ⟨n, -, hint⟩ := Option.map_eq_some_iff.1 hvalue
    have hread : readOnce "iat" before.iat (Json.int64? value) = .ok n :=
      readOnce_eq_ok_iff.2 ⟨Option.map_eq_none_iff.1 hnone, Json.int64?_eq_some_iff.2 hint.symm⟩
    exact ⟨_, map_eq_ok_iff.2 ⟨n, hread, rfl⟩⟩
  · obtain ⟨n, -, hint⟩ := Option.map_eq_some_iff.1 hvalue
    have hread : readOnce "exp" before.exp (Json.int64? value) = .ok n :=
      readOnce_eq_ok_iff.2 ⟨Option.map_eq_none_iff.1 hnone, Json.int64?_eq_some_iff.2 hint.symm⟩
    exact ⟨_, map_eq_ok_iff.2 ⟨n, hread, rfl⟩⟩

/-- Any other member is kept if it can be. -/
theorem add_other_eq_ok_iff {before after : Draft} {name : String} {value : Json}
    (hname : name ∉ requiredClaims) :
    before.add name value = .ok after ↔
      isKept value = true ∧ after = { before with others := before.others ++ [(name, value)] } := by
  obtain ⟨huser, hname, hiat, hexp⟩ := not_mem_requiredClaims.1 hname
  rw [add, if_neg huser, if_neg hname, if_neg hiat, if_neg hexp]
  cases isKept value <;> simp [eq_comm]

theorem value?_setOthers (draft : Draft) (others : List (String × Json)) (name : String) :
    { draft with others }.value? name = draft.value? name := rfl

/-- One draft takes members and becomes another one: it takes the values of each claim, of which there is
one in the end if any, and the other members in their order. -/
structure Takes (before : Draft) (members : List (String × Json)) (after : Draft) : Prop where
  claims : ∀ name ∈ requiredClaims,
    (before.value? name).toList ++ valuesOf name members = (after.value? name).toList
  others : after.others = before.others ++ members.filter fun member => member.1 ∉ requiredClaims
  kept : ∀ member ∈ members, member.1 ∉ requiredClaims → isKept member.2 = true

theorem takes_nil_iff {before after : Draft} : before.Takes [] after ↔ before = after := by
  constructor
  · intro htakes
    refine eq_of_values (fun name hname => ?_) ?_
    · have hclaim := htakes.claims name hname
      rw [valuesOf_nil, List.append_nil] at hclaim
      calc
        before.value? name = (before.value? name).toList.head? := Option.head?_toList.symm
        _ = (after.value? name).toList.head? := congrArg List.head? hclaim
        _ = after.value? name := Option.head?_toList
    · rw [htakes.others, List.filter_nil, List.append_nil]
  · rintro rfl
    exact ⟨fun name _ => List.append_nil _, (List.append_nil _).symm, fun _ h => absurd h List.not_mem_nil⟩

/-- Taking a member first and the others then is taking them all: a claim. -/
theorem takes_cons_required {before after : Draft} {name : String} {value : Json}
    {members : List (String × Json)} (hname : name ∈ requiredClaims) :
    before.Takes ((name, value) :: members) after ↔
      ∃ next, before.add name value = .ok next ∧ next.Takes members after := by
  have hfilter : ((name, value) :: members).filter (fun member => member.1 ∉ requiredClaims) =
      members.filter fun member => member.1 ∉ requiredClaims := by
    rw [List.filter_cons_of_neg]
    simpa using hname
  constructor
  · intro htakes
    have hclaim := htakes.claims name hname
    rw [valuesOf_cons_self] at hclaim
    obtain ⟨hnone, hvalue, hnil⟩ : before.value? name = none ∧ after.value? name = some value ∧
        valuesOf name members = [] := by
      cases hbefore : before.value? name <;> cases hafter : after.value? name <;>
        simp_all
    obtain ⟨next, hadd⟩ := exists_add_eq_ok hname hnone hvalue
    obtain ⟨-, hnext, hframe, hothers⟩ := add_required hname hadd
    refine ⟨next, hadd, fun other hother => ?_, ?_, ?_⟩
    · by_cases hsame : other = name
      · rw [hsame, hnext, hvalue, hnil]
        rfl
      · have hclaim := htakes.claims other hother
        rw [valuesOf_cons_of_ne (Ne.symm hsame)] at hclaim
        rw [hframe other hsame, hclaim]
    · rw [htakes.others, hfilter, hothers]
    · intro member hmember
      exact htakes.kept member (List.mem_cons_of_mem _ hmember)
  · rintro ⟨next, hadd, htakes⟩
    obtain ⟨hnone, hnext, hframe, hothers⟩ := add_required hname hadd
    refine ⟨fun other hother => ?_, ?_, ?_⟩
    · by_cases hsame : other = name
      · rw [hsame, ← htakes.claims name hname, hnone, hnext, valuesOf_cons_self]
        rfl
      · rw [valuesOf_cons_of_ne (Ne.symm hsame), ← hframe other hsame]
        exact htakes.claims other hother
    · rw [htakes.others, hfilter, hothers]
    · intro member hmember hother
      rcases List.mem_cons.1 hmember with rfl | hmember
      · exact absurd hname hother
      · exact htakes.kept member hmember hother

/-- Taking a member first and the others then is taking them all: a member that is no claim. -/
theorem takes_cons_other {before after : Draft} {name : String} {value : Json}
    {members : List (String × Json)} (hname : name ∉ requiredClaims) :
    before.Takes ((name, value) :: members) after ↔
      ∃ next, before.add name value = .ok next ∧ next.Takes members after := by
  have hfilter : ((name, value) :: members).filter (fun member => member.1 ∉ requiredClaims) =
      (name, value) :: members.filter fun member => member.1 ∉ requiredClaims := by
    rw [List.filter_cons_of_pos]
    simpa using hname
  have hvalues : ∀ other ∈ requiredClaims,
      valuesOf other ((name, value) :: members) = valuesOf other members := by
    intro other hother
    refine valuesOf_cons_of_ne ?_ value members
    rintro rfl
    exact hname hother
  constructor
  · intro htakes
    have hkept := htakes.kept (name, value) List.mem_cons_self hname
    refine ⟨_, (add_other_eq_ok_iff hname).2 ⟨hkept, rfl⟩, fun other hother => ?_, ?_, ?_⟩
    · rw [value?_setOthers, ← hvalues other hother]
      exact htakes.claims other hother
    · rw [htakes.others, hfilter, List.append_assoc]
      rfl
    · intro member hmember
      exact htakes.kept member (List.mem_cons_of_mem _ hmember)
  · rintro ⟨next, hadd, htakes⟩
    obtain ⟨hkept, rfl⟩ := (add_other_eq_ok_iff hname).1 hadd
    refine ⟨fun other hother => ?_, ?_, ?_⟩
    · rw [hvalues other hother]
      exact htakes.claims other hother
    · rw [htakes.others, hfilter, List.append_assoc]
      rfl
    · intro member hmember hother
      rcases List.mem_cons.1 hmember with rfl | hmember
      · exact hkept
      · exact htakes.kept member hmember hother

/-- A draft that adds members one by one takes them. -/
theorem addAll_eq_ok_iff {before after : Draft} {members : List (String × Json)} :
    before.addAll members = .ok after ↔ before.Takes members after := by
  induction members generalizing before with
  | nil => simp [addAll, takes_nil_iff]
  | cons member members ih =>
      obtain ⟨name, value⟩ := member
      have hstep : before.addAll ((name, value) :: members) = .ok after ↔
          ∃ next, before.add name value = .ok next ∧ next.Takes members after := by
        simp only [← ih]
        exact bind_eq_ok_iff
      rw [hstep]
      by_cases hname : name ∈ requiredClaims
      · exact (takes_cons_required hname).symm
      · exact (takes_cons_other hname).symm

end Draft

/-! ## All claims -/

namespace Payload

/-- A payload is what the members of an object say. -/
structure IsOf (payload : Payload) (members : List (String × Json)) : Prop where
  userId : valuesOf "user_id" members = [.int payload.userId.toInt]
  username : valuesOf "username" members = [.str payload.username]
  iat : valuesOf "iat" members = [.int payload.iat.toInt]
  exp : valuesOf "exp" members = [.int payload.exp.toInt]
  kept : ∀ member ∈ members, member.1 ∉ requiredClaims → isKept member.2 = true
  extra : payload.extra = Json.sortMembers (Json.canonicalMembers
    (members.filter fun member => member.1 ∉ requiredClaims))

end Payload

theorem Draft.payload_eq_ok_iff {draft : Draft} {payload : Payload} :
    draft.payload = .ok payload ↔
      draft.userId = some payload.userId ∧ draft.username = some payload.username ∧
        draft.iat = some payload.iat ∧ draft.exp = some payload.exp ∧
        payload.extra = Json.sortMembers (Json.canonicalMembers draft.others) := by
  constructor
  · intro hmade
    obtain ⟨userId, huser, hmade⟩ := bind_eq_ok_iff.1 hmade
    obtain ⟨username, hname, hmade⟩ := bind_eq_ok_iff.1 hmade
    obtain ⟨iat, hiat, hmade⟩ := bind_eq_ok_iff.1 hmade
    obtain ⟨exp, hexp, hmade⟩ := bind_eq_ok_iff.1 hmade
    cases hmade
    exact ⟨required_eq_ok_iff.1 huser, required_eq_ok_iff.1 hname, required_eq_ok_iff.1 hiat,
      required_eq_ok_iff.1 hexp, rfl⟩
  · rintro ⟨huser, hname, hiat, hexp, hextra⟩
    obtain ⟨userId, username, iat, exp, extra⟩ := payload
    rw [Draft.payload, huser, hname, hiat, hexp]
    cases hextra
    rfl

namespace Payload

/-- A payload is what members say when a draft that takes them has its claims. -/
theorem isOf_iff {payload : Payload} {members : List (String × Json)} :
    payload.IsOf members ↔
      ∃ draft, ({} : Draft).Takes members draft ∧ draft.payload = .ok payload := by
  constructor
  · intro hof
    let others := members.filter fun member => member.1 ∉ requiredClaims
    refine ⟨⟨some payload.userId, some payload.username, some payload.iat, some payload.exp, others⟩,
      ⟨?_, rfl, hof.kept⟩, Draft.payload_eq_ok_iff.2 ⟨rfl, rfl, rfl, rfl, hof.extra⟩⟩
    intro name hname
    simp only [requiredClaims, List.mem_cons, List.not_mem_nil, or_false] at hname
    rcases hname with rfl | rfl | rfl | rfl
    · exact hof.userId
    · exact hof.username
    · exact hof.iat
    · exact hof.exp
  · rintro ⟨draft, htakes, hmade⟩
    obtain ⟨huser, hname, hiat, hexp, hextra⟩ := Draft.payload_eq_ok_iff.1 hmade
    have hothers : draft.others = members.filter fun member => member.1 ∉ requiredClaims :=
      htakes.others
    refine ⟨?_, ?_, ?_, ?_, htakes.kept, hothers ▸ hextra⟩
    · have hclaim := htakes.claims "user_id" (by decide)
      simpa [Draft.value?, huser] using hclaim
    · have hclaim := htakes.claims "username" (by decide)
      simpa [Draft.value?, hname] using hclaim
    · have hclaim := htakes.claims "iat" (by decide)
      simpa [Draft.value?, hiat] using hclaim
    · have hclaim := htakes.claims "exp" (by decide)
      simpa [Draft.value?, hexp] using hclaim

/-- A payload is read from what can be read of an object when nothing is wrong with it. -/
theorem ofOpening_eq_ok_iff {opening : Json.Opening} {payload : Payload} :
    ofOpening opening = .ok payload ↔
      payload.IsOf opening.members ∧
        ∃ rest, opening.ending = .closed rest ∧ Json.skipSpace rest = [] := by
  rw [ofOpening, bind_eq_ok_iff, isOf_iff]
  simp only [Draft.addAll_eq_ok_iff]
  constructor
  · rintro ⟨draft, htakes, hread⟩
    cases hending : opening.ending with
    | closed rest =>
        rw [hending] at hread
        obtain ⟨made, hmade, hread⟩ := bind_eq_ok_iff.1 hread
        obtain ⟨hend, hsame⟩ := ite_eq_ok_iff.1 hread
        cases hsame
        exact ⟨⟨draft, htakes, hmade⟩, rest, rfl, hend⟩
    | named name =>
        rw [hending] at hread
        cases hread
    | broken =>
        rw [hending] at hread
        cases hread
  · rintro ⟨⟨draft, htakes, hmade⟩, rest, hending, hend⟩
    refine ⟨draft, htakes, ?_⟩
    rw [hending]
    exact bind_eq_ok_iff.2 ⟨payload, hmade, if_pos hend⟩

end Payload

/-- The registered claims among members are such that what comes after them can be read: each occurs at
most once. -/
def RegisteredReadable (members : List (String × Json)) : Prop :=
  ∀ name ∈ registeredClaims, AtMostOne (fun value => isReadable name value = true) (valuesOf name members)

theorem checkRegistered_eq_ok_iff {members : List (String × Json)} :
    checkRegistered members = .ok () ↔ RegisteredReadable members := by
  rw [checkRegistered, checkMembers_eq_ok_iff, keep_iff_of_seen_nil]
  simp only [typeRules, lookup_map_pair]
  constructor
  · intro hkeep name hname
    exact hkeep name _ (by rw [if_pos hname]; rfl)
  · intro hreadable name rule hrule
    obtain ⟨isTyped, htype, rfl⟩ := Option.map_eq_some_iff.1 hrule
    obtain ⟨hname, htype⟩ := Option.ite_none_right_eq_some.1 htype
    cases htype
    exact hreadable name hname

/-- Without any registered claim there is none that stands in the way. -/
theorem registeredReadable_of_none {members : List (String × Json)}
    (hnone : ∀ member ∈ members, member.1 ∉ registeredClaims) : RegisteredReadable members := by
  intro name hname
  refine .inl (valuesOf_eq_nil fun member hmember hsame => ?_)
  rw [← hsame] at hname
  exact hnone member hmember hname

/-- The claims of a text are the payload that the members of an object say, if that is what the text is
and it expires after the epoch. -/
theorem readClaims_eq_ok_iff {text : String} {payload : Payload} :
    readClaims text = .ok payload ↔
      ∃ members, Json.parse? text = some (.obj members) ∧ payload.IsOf members ∧
        RegisteredReadable members ∧ 0 ≤ payload.exp := by
  simp only [Json.parse?_eq_obj_iff]
  constructor
  · intro hread
    unfold readClaims at hread
    split at hread
    · cases hread
    · next opening hopened =>
        obtain ⟨made, hmade, hread⟩ := bind_eq_ok_iff.1 hread
        obtain ⟨⟨⟩, hregistered, hread⟩ := bind_eq_ok_iff.1 hread
        split at hread
        · cases hread
        · next hepoch =>
            cases hread
            obtain ⟨hof, rest, hending, hend⟩ := Payload.ofOpening_eq_ok_iff.1 hmade
            obtain ⟨members, ending⟩ := opening
            cases hending
            exact ⟨members, ⟨rest, hopened, hend⟩, hof, checkRegistered_eq_ok_iff.1 hregistered,
              Int64.not_lt.1 hepoch⟩
  · rintro ⟨members, ⟨rest, hopened, hend⟩, hof, hregistered, hepoch⟩
    have hmade : Payload.ofOpening ⟨members, .closed rest⟩ = .ok payload :=
      Payload.ofOpening_eq_ok_iff.2 ⟨hof, rest, rfl, hend⟩
    unfold readClaims
    rw [hopened]
    refine bind_eq_ok_iff.2 ⟨payload, hmade, bind_eq_ok_iff.2 ⟨(), ?_, ?_⟩⟩
    · exact checkRegistered_eq_ok_iff.2 hregistered
    · exact if_neg (Int64.not_lt.2 hepoch)

end Gatehouse.Token
