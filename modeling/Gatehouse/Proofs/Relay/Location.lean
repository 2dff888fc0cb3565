import Gatehouse.Proofs.Http.PlainText
import Gatehouse.Relay.Location

/-!
# Where a location is cut

The part of a location that survives a redirect through the gateway is its end, from the first
character on that may end an authority.
-/

namespace Gatehouse.Relay

open Http (IsPlain isPlain_append)

/-- The characters that end an authority are those that end it for a reader of URLs. -/
theorem endsAuthority_eq (c : Char) : endsAuthority c = Url.endsAuthority .special c := by
  rw [Bool.eq_iff_iff]
  simp only [endsAuthority, Url.endsAuthority, Url.isSlash, Bool.or_eq_true, Bool.and_eq_true,
    decide_eq_true_eq]
  constructor
  · rintro (((hc | hc) | hc) | hc)
    · exact .inl (.inl (.inl hc))
    · exact .inl (.inr hc)
    · exact .inr hc
    · exact .inl (.inl (.inr ⟨hc, by decide⟩))
  · rintro (((hc | hc) | hc) | hc)
    · exact .inl (.inl (.inl hc))
    · exact .inr hc.1
    · exact .inl (.inl (.inr hc))
    · exact .inl (.inr hc)

theorem eq_of_splitAuthorityMark {cs before after : List Char}
    (hsplit : splitAuthorityMark cs = some (before, after)) :
    cs = before ++ ':' :: '/' :: '/' :: after := by
  induction cs generalizing before after with
  | nil => cases hsplit
  | cons c cs ih =>
      unfold splitAuthorityMark at hsplit
      split at hsplit
      · next hmark =>
          cases hsplit
          exact hmark
      · next hcons =>
          cases hcons
          obtain ⟨⟨start, rest⟩, hrest, heq⟩ := Option.map_eq_some_iff.1 hsplit
          cases heq
          rw [ih hrest]
          rfl
      · cases hsplit

/-- Something is kept of a URL with a host whose own scheme stands in front of the first mark. -/
theorem afterAuthority?_eq_some_iff {location rest : String} :
    afterAuthority? location = some rest ↔
      ∃ url before after, Url.parse location = .ok url ∧ url.hasHost = true ∧
        splitAuthorityMark location.toList = some (before, after) ∧
        before.map Char.toLower = url.scheme.toList ∧
        rest = String.ofList (after.dropWhile fun c => !endsAuthority c) := by
  constructor
  · intro hkept
    unfold afterAuthority? at hkept
    split at hkept
    · cases hkept
    · next url hread =>
        split at hkept
        · next hhost =>
            split at hkept
            · cases hkept
            · next before after hsplit =>
                split at hkept
                · next hscheme =>
                    cases hkept
                    exact ⟨url, before, after, hread, hhost, hsplit, hscheme, rfl⟩
                · cases hkept
        · cases hkept
  · rintro ⟨url, before, after, hread, hhost, hsplit, hscheme, rfl⟩
    unfold afterAuthority?
    rw [hread]
    dsimp only
    rw [if_pos hhost, hsplit]
    dsimp only
    rw [if_pos hscheme]

/-- What is kept of a location is its end. -/
theorem suffix_of_afterAuthority? {location rest : String}
    (hkept : afterAuthority? location = some rest) : rest.toList <:+ location.toList := by
  obtain ⟨_, before, after, -, -, hsplit, -, rfl⟩ := afterAuthority?_eq_some_iff.1 hkept
  rw [String.toList_ofList, eq_of_splitAuthorityMark hsplit]
  have hmark : after <:+ before ++ ':' :: '/' :: '/' :: after :=
    ⟨before ++ [':', '/', '/'], by simp⟩
  exact (List.dropWhile_suffix _).trans hmark

/-- A location that does not stay as it is gets the origin in front of what is kept of it. -/
theorem exists_of_relocate_ne {location : String} {origin : Origin}
    (hmoved : relocate location origin ≠ location) :
    ∃ host rest, origin.host = some host ∧ afterAuthority? location = some rest ∧
      relocate location origin = origin.scheme ++ "://" ++ host ++ rest := by
  unfold relocate at hmoved ⊢
  cases hgiven : origin.host with
  | none =>
      rw [hgiven] at hmoved
      exact absurd rfl hmoved
  | some host =>
      cases hkept : afterAuthority? location with
      | none =>
          rw [hgiven, hkept] at hmoved
          exact absurd rfl hmoved
      | some rest => exact ⟨host, rest, rfl, rfl, rfl⟩

/-- A plain location stays plain for a plain origin. -/
theorem isPlain_relocate {location : String} {origin : Origin} (hlocation : IsPlain location.toList)
    (hscheme : IsPlain origin.scheme.toList)
    (hhost : ∀ host, origin.host = some host → IsPlain host.toList) :
    IsPlain (relocate location origin).toList := by
  have hmark : IsPlain "://".toList := by decide
  unfold relocate
  split
  · exact hlocation
  · next host hgiven =>
      split
      · exact hlocation
      · next rest hkept =>
          have hrest := hlocation.of_subset (suffix_of_afterAuthority? hkept).subset
          simp only [String.toList_append, isPlain_append]
          exact ⟨⟨⟨hscheme, hmark⟩, hhost host hgiven⟩, hrest⟩

end Gatehouse.Relay
