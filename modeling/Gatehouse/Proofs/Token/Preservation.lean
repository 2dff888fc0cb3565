import Gatehouse.Proofs.Json.Words
import Gatehouse.Proofs.Token.Acceptance

/-!
# What a payload keeps of a text

A payload that was read holds what the object in the text says, the last value of each name, and nothing
else. Its own text therefore says the same, whoever reads that finds the payload again, and so does a
verifier of a token that was made of it.
-/

namespace Gatehouse.Token

open Json (Part)

/-! ## Values by name -/

section Values

variable {name : String} {members others : List (String × Json)}

theorem valuesOf_append (name : String) (members others : List (String × Json)) :
    valuesOf name (members ++ others) = valuesOf name members ++ valuesOf name others := by
  rw [valuesOf, List.filter_append, List.map_append]
  rfl

theorem valuesOf_reverse (name : String) (members : List (String × Json)) :
    valuesOf name members.reverse = (valuesOf name members).reverse := by
  rw [valuesOf, List.filter_reverse, List.map_reverse]
  rfl

/-- Members with other names may be left out. -/
theorem valuesOf_filter {p : String × Json → Bool} (hp : ∀ value, p (name, value) = true)
    (members : List (String × Json)) : valuesOf name (members.filter p) = valuesOf name members := by
  rw [valuesOf, List.filter_filter]
  refine congrArg (List.map Prod.snd) (List.filter_congr fun member _ => ?_)
  obtain ⟨other, value⟩ := member
  by_cases hother : other = name
  · rw [hother, hp value, Bool.and_true]
  · rw [decide_eq_false hother, Bool.false_and]

theorem lookup_eq_head? (name : String) (members : List (String × Json)) :
    members.lookup name = (valuesOf name members).head? := by
  induction members with
  | nil => rfl
  | cons member members ih =>
      obtain ⟨other, value⟩ := member
      rw [Toml.lookup_cons_ite, ih]
      by_cases hname : name = other
      · rw [if_pos hname, hname, valuesOf_cons_self]
        rfl
      · rw [if_neg hname, valuesOf_cons_of_ne (Ne.symm hname)]

/-- A name with one value has that value, wherever one looks first. -/
theorem lookup_of_valuesOf {value : Json} (hvalues : valuesOf name members = [value]) :
    members.lookup name = some value ∧ members.reverse.lookup name = some value := by
  rw [lookup_eq_head?, lookup_eq_head?, valuesOf_reverse, hvalues]
  exact ⟨rfl, rfl⟩

theorem lookup_filter {p : String × Json → Bool} (hp : ∀ value, p (name, value) = true)
    (members : List (String × Json)) : (members.filter p).lookup name = members.lookup name := by
  rw [lookup_eq_head?, valuesOf_filter hp, lookup_eq_head?]

end Values

namespace Payload

/-! ## Further claims -/

/-- A payload is read of a text when the text is an object that says it. -/
theorem read_eq_ok_iff {text : String} {payload : Payload} :
    read text = .ok payload ↔
      ∃ members, Json.parse? text = some (.obj members) ∧ payload.IsOf members := by
  simp only [Json.parse?_eq_obj_iff]
  constructor
  · intro hread
    unfold read at hread
    split at hread
    · next opening hopened =>
        obtain ⟨hof, rest, hending, hend⟩ := ofOpening_eq_ok_iff.1 hread
        obtain ⟨members, ending⟩ := opening
        cases hending
        exact ⟨members, ⟨rest, hopened, hend⟩, hof⟩
    · cases hread
  · rintro ⟨members, ⟨rest, hopened, hend⟩, hof⟩
    unfold read
    rw [hopened]
    exact ofOpening_eq_ok_iff.2 ⟨hof, rest, rfl, hend⟩

/-- The further claims are a map of values that can be kept, without any of the four claims. -/
structure IsTidy (payload : Payload) : Prop where
  ascending : Json.Ascending payload.extra
  others : ∀ member ∈ payload.extra, member.1 ∉ requiredClaims
  canonical : ∀ member ∈ payload.extra, member.2.canonical = member.2
  kept : ∀ member ∈ payload.extra, isKept member.2 = true

section Extra

variable {payload : Payload} {members : List (String × Json)}

/-- Each further claim is a member that is none of the four, as a map. -/
theorem IsOf.exists_of_mem_extra (hof : payload.IsOf members) {member : String × Json}
    (hmember : member ∈ payload.extra) :
    ∃ source ∈ members, source.1 ∉ requiredClaims ∧ member = (source.1, source.2.canonical) := by
  rw [hof.extra] at hmember
  obtain ⟨source, hsource, heq⟩ := Json.exists_of_mem_canonical hmember
  obtain ⟨hsource, hother⟩ := List.mem_filter.1 hsource
  exact ⟨source, hsource, of_decide_eq_true hother, heq⟩

theorem isKept_canonical {value : Json} (hkept : isKept value = true) :
    isKept value.canonical = true := by
  simp only [isKept, Bool.and_eq_true, decide_eq_true_eq] at hkept ⊢
  exact ⟨Nat.lt_of_le_of_lt (Json.depth_canonical_le value) hkept.1, Json.finite_canonical hkept.2⟩

theorem IsOf.isTidy (hof : payload.IsOf members) : payload.IsTidy where
  ascending := by
    rw [hof.extra]
    exact Json.ascending_sortMembers _
  others := by
    intro member hmember
    obtain ⟨source, -, hother, rfl⟩ := hof.exists_of_mem_extra hmember
    exact hother
  canonical := by
    intro member hmember
    obtain ⟨source, -, -, rfl⟩ := hof.exists_of_mem_extra hmember
    exact Json.canonical_canonical source.2
  kept := by
    intro member hmember
    obtain ⟨source, hsource, hother, rfl⟩ := hof.exists_of_mem_extra hmember
    exact isKept_canonical (hof.kept source hsource hother)

/-- Under a name that is none of the four stands the last value of that name. -/
theorem IsOf.lookup_extra (hof : payload.IsOf members) {name : String}
    (hname : name ∉ requiredClaims) :
    payload.extra.lookup name = (members.reverse.lookup name).map Json.canonical := by
  have hpasses : ∀ value : Json, decide ((name, value).1 ∉ requiredClaims) = true :=
    fun _ => decide_eq_true hname
  rw [hof.extra, Json.lookup_sortMembers, Json.canonicalMembers_eq_map, ← List.map_reverse,
    Json.lookup_map_snd, ← List.filter_reverse, lookup_filter hpasses]

end Extra

/-! ## The members that are written -/

/-- The members of a payload: the four claims, then the others. -/
def members (payload : Payload) : List (String × Json) := payload.fixedMembers ++ payload.extra

theorem names_fixedMembers (payload : Payload) :
    payload.fixedMembers.map Prod.fst = requiredClaims := rfl

theorem name_mem_of_mem_fixedMembers {payload : Payload} {member : String × Json}
    (hmember : member ∈ payload.fixedMembers) : member.1 ∈ requiredClaims := by
  rw [← payload.names_fixedMembers]
  exact List.mem_map_of_mem hmember

namespace IsTidy

variable {payload : Payload}

theorem valuesOf_members_required (htidy : payload.IsTidy) {name : String}
    (hname : name ∈ requiredClaims) :
    valuesOf name payload.members = valuesOf name payload.fixedMembers := by
  have hnone : valuesOf name payload.extra = [] := by
    refine valuesOf_eq_nil fun member hmember hsame => htidy.others member hmember ?_
    rw [hsame]
    exact hname
  rw [members, valuesOf_append, hnone, List.append_nil]

theorem lookup_members_other (payload : Payload) {name : String} (hname : name ∉ requiredClaims) :
    payload.members.lookup name = payload.extra.lookup name := by
  have hnone : payload.fixedMembers.lookup name = none := by
    refine List.lookup_eq_none_iff.2 fun member hmember => bne_iff_ne.2 ?_
    rintro rfl
    exact hname (name_mem_of_mem_fixedMembers hmember)
  rw [members, List.lookup_append, hnone, Option.none_or]

/-- No name is written twice. -/
theorem nodup_members (htidy : payload.IsTidy) : (payload.members.map Prod.fst).Nodup := by
  rw [members, List.map_append, names_fixedMembers]
  refine List.nodup_append.2 ⟨by decide, htidy.ascending.distinctKeys, ?_⟩
  rintro name hrequired other hother rfl
  obtain ⟨member, hmember, hsame⟩ := List.mem_map.1 hother
  exact htidy.others member hmember (hsame ▸ hrequired)

/-- The other members that are written are the further claims. -/
theorem filter_members (htidy : payload.IsTidy) :
    (payload.members.filter fun member => member.1 ∉ requiredClaims) = payload.extra := by
  have hfixed : (payload.fixedMembers.filter fun member => member.1 ∉ requiredClaims) = [] := by
    refine List.filter_eq_nil_iff.2 fun member hmember hother => ?_
    exact of_decide_eq_true hother (name_mem_of_mem_fixedMembers hmember)
  rw [members, List.filter_append, hfixed, List.nil_append]
  exact List.filter_eq_self.2 fun member hmember => decide_eq_true (htidy.others member hmember)

/-- What is written says the payload. -/
theorem isOf_members (htidy : payload.IsTidy) : payload.IsOf payload.members where
  userId := (htidy.valuesOf_members_required (by decide)).trans rfl
  username := (htidy.valuesOf_members_required (by decide)).trans rfl
  iat := (htidy.valuesOf_members_required (by decide)).trans rfl
  exp := (htidy.valuesOf_members_required (by decide)).trans rfl
  kept := by
    intro member hmember hother
    rcases List.mem_append.1 hmember with hfixed | hextra
    · exact absurd (name_mem_of_mem_fixedMembers hfixed) hother
    · exact htidy.kept member hextra
  extra := by
    rw [htidy.filter_members]
    exact (Json.sortMembers_canonicalMembers_of htidy.ascending htidy.canonical).symm

end IsTidy

/-- Under every name is written what the object in the text says last, as a map. -/
theorem IsOf.lookup_members {payload : Payload} {said : List (String × Json)} (hof : payload.IsOf said)
    (name : String) :
    payload.members.lookup name = (said.reverse.lookup name).map Json.canonical := by
  have hwritten := hof.isTidy.isOf_members
  by_cases hname : name ∈ requiredClaims
  · -- The four are typed on both sides, so both say them once and first and last are the same.
    simp only [requiredClaims, List.mem_cons, List.not_mem_nil, or_false] at hname
    rcases hname with rfl | rfl | rfl | rfl
    · rw [(lookup_of_valuesOf hwritten.userId).1, (lookup_of_valuesOf hof.userId).2]
      rfl
    · rw [(lookup_of_valuesOf hwritten.username).1, (lookup_of_valuesOf hof.username).2]
      rfl
    · rw [(lookup_of_valuesOf hwritten.iat).1, (lookup_of_valuesOf hof.iat).2]
      rfl
    · rw [(lookup_of_valuesOf hwritten.exp).1, (lookup_of_valuesOf hof.exp).2]
      rfl
  · rw [IsTidy.lookup_members_other payload hname, hof.lookup_extra hname]

/-- The text of a payload is the object of its members, as long as their numbers are whole. -/
theorem parse?_text {payload : Payload}
    (hwhole : ∀ member ∈ payload.extra, member.2.isWhole = true) :
    Json.parse? payload.text = some (.obj payload.members) := by
  have hfour : Json.isWhole (.obj payload.fixedMembers) = true := payload.haveWhole_fixedMembers
  refine Json.parse?_compact (Json.isWhole_obj_iff.2 fun member hmember => ?_)
  rcases List.mem_append.1 hmember with hfixed | hextra
  · exact Json.isWhole_obj_iff.1 hfour member hfixed
  · exact hwhole member hextra

/-! ## Tokens with further claims -/

/-- A payload that its own text says is what a verifier finds in a token that was made of it. -/
theorem verifyAt_tokenOf {payload : Payload} (htidy : payload.IsTidy)
    (htext : Json.parse? payload.text = some (.obj payload.members)) (huser : 0 < payload.userId)
    (hname : Text.blank payload.username = false) (hexp : 0 ≤ payload.exp)
    (hregistered : ∀ member ∈ payload.extra, member.1 ∉ registeredClaims) (secret : Bytes) :
    ∃ token, (KeySet.hs256 secret).tokenOf payload = .ok token ∧
      ∀ (now : Int64) (leeway : UInt64), now.toInt ≤ payload.exp.toInt + leeway.toNat →
        Verifier.verifyAt { Verifier.ofKeys (.hs256 secret) with leeway } token now =
          .ok payload := by
  have hnone : ∀ member ∈ payload.members, member.1 ∉ registeredClaims := by
    intro member hmember
    rcases List.mem_append.1 hmember with hfixed | hextra
    · exact (by decide : ∀ name ∈ requiredClaims, name ∉ registeredClaims) _
        (name_mem_of_mem_fixedMembers hfixed)
    · exact hregistered member hextra
  obtain ⟨token, hmade, signature, hsigned⟩ :
      ∃ token, (KeySet.hs256 secret).tokenOf payload = .ok token ∧
        ∃ signature, (KeySet.hs256 secret).Signed token (Text.utf8 (Header.issued .hs256).compact)
          payload.text signature :=
    ⟨_, rfl, _, rfl, Header.read_eq_ok_iff.1 (Header.read_issued .hs256), rfl⟩
  refine ⟨token, hmade, fun now leeway hearly => ?_⟩
  have hclaims : Verifier.claims { Verifier.ofKeys (.hs256 secret) with leeway } token = .ok payload :=
    Verifier.claims_eq_ok_iff.2 ⟨payload.members, ⟨_, _, signature, hsigned, htext⟩,
      htidy.isOf_members, registeredReadable_of_none hnone, hexp⟩
  exact Verifier.verifyAt_eq_ok_iff.2 ⟨hclaims, hearly, huser, hname⟩

/-- Reading a payload of a text without floating-point numbers neither loses nor invents a claim. None of
the four claims is among the others; what is written of the payload is an object without repeated names
that says under every name what the text said last, and it is read and written back as it is. If the
payload names somebody, expires after the epoch and has no registered claim, a token that is made of it
under any secret is accepted until its window is over, and the payload given back. -/
theorem read_preserves {text : String} {payload : Payload} (hread : read text = .ok payload)
    (hfloats : ∀ value x, Json.parse? text = some value → ¬Part (.float x) value) :
    (∀ member ∈ payload.extra, member.1 ∉ requiredClaims) ∧
    (∃ said written, Json.parse? text = some (.obj said) ∧
      Json.parse? payload.text = some (.obj written) ∧ (written.map Prod.fst).Nodup ∧
      ∀ name, written.lookup name = (said.reverse.lookup name).map Json.canonical) ∧
    (read payload.text = .ok payload ∧ (read payload.text).map Payload.text = .ok payload.text) ∧
    (0 < payload.userId → Text.blank payload.username = false → 0 ≤ payload.exp →
      (∀ member ∈ payload.extra, member.1 ∉ registeredClaims) →
      ∀ secret, ∃ token, (KeySet.hs256 secret).tokenOf payload = .ok token ∧
        ∀ (now : Int64) (leeway : UInt64), now.toInt ≤ payload.exp.toInt + leeway.toNat →
          Verifier.verifyAt { Verifier.ofKeys (.hs256 secret) with leeway } token now =
            .ok payload) := by
  obtain ⟨said, hsaid, hof⟩ := read_eq_ok_iff.1 hread
  have htidy := hof.isTidy
  have hwhole : ∀ member ∈ payload.extra, member.2.isWhole = true := by
    intro member hmember
    obtain ⟨source, hsource, -, rfl⟩ := hof.exists_of_mem_extra hmember
    have hobject := Json.isWhole_of_parse? hsaid fun x => hfloats _ x hsaid
    exact Json.isWhole_canonical (Json.isWhole_obj_iff.1 hobject source hsource)
  have htext := parse?_text hwhole
  have hagain : read payload.text = .ok payload :=
    read_eq_ok_iff.2 ⟨_, htext, htidy.isOf_members⟩
  refine ⟨htidy.others, ⟨said, _, hsaid, htext, htidy.nodup_members, hof.lookup_members⟩,
    ⟨hagain, ?_⟩, fun huser hname hexp hregistered secret => ?_⟩
  · rw [hagain]
    rfl
  · exact verifyAt_tokenOf htidy htext huser hname hexp hregistered secret

/-- A text that names a tenant twice and a scope with keys in no order: the tenant that it names last is
kept, and a token that is made of what was read gives that back. -/
theorem read_preserves_tenant :
    ∃ text payload, read text = .ok payload ∧
      payload.extra = [("scope", .obj [("a", .null), ("é", .int 18446744073709551615)]),
        ("tenant", .str "acme")] ∧
      read payload.text = .ok payload ∧
      ∃ token, (KeySet.hs256 []).tokenOf payload = .ok token ∧
        Verifier.verifyAt (Verifier.ofKeys (.hs256 [])) token 4630 = .ok payload := by
  let said : List (String × Json) := [("tenant", .int (-1)), ("exp", .int 4600), ("iat", .int 1000),
    ("scope", .obj [("é", .int 18446744073709551615), ("a", .null)]), ("tenant", .str "acme"),
    ("username", .str "Zoë"), ("user_id", .int 7)]
  let payload : Payload := ⟨7, "Zoë", 1000, 4600,
    [("scope", .obj [("a", .null), ("é", .int 18446744073709551615)]), ("tenant", .str "acme")]⟩
  have hsaid : Json.parse? (Json.obj said).compact = some (.obj said) := Json.parse?_compact rfl
  have hread : read (Json.obj said).compact = .ok payload :=
    read_eq_ok_iff.2 ⟨said, hsaid, rfl, rfl, rfl, rfl, by decide, rfl⟩
  have hfloats : ∀ value x, Json.parse? (Json.obj said).compact = some value →
      ¬Part (.float x) value := by
    intro value x hparsed
    cases hsaid.symm.trans hparsed
    exact Json.not_part_float_of_isWhole rfl x
  obtain ⟨-, -, ⟨hagain, -⟩, htoken⟩ := read_preserves hread hfloats
  obtain ⟨token, hmade, hverified⟩ := htoken (by decide) (by decide) (by decide) (by decide) []
  exact ⟨_, payload, hread, rfl, hagain, token, hmade, hverified 4630 30 (by decide)⟩

end Payload

end Gatehouse.Token
