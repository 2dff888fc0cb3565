import Gatehouse.Proofs.Http.PlainText
import Gatehouse.Proofs.Relay.Location
import Gatehouse.Proofs.Text.LetterCase
import Gatehouse.Proofs.Url.Layout

/-!
# Locations that pass several gateways

A location that was relocated to an origin stays as it is when it is relocated to that origin again,
whatever a reader of URLs makes of it: its first `://` is the one behind the scheme of the origin, and
what is kept begins behind the host of the origin, as it did before. This takes an origin whose scheme
holds no colon and whose host holds nothing that ends an authority; origins that are read from request
targets are so.
-/

namespace Gatehouse.Relay

open Http (Headers RequestTarget)

/-! ## The first mark -/

/-- A text in two parts, before and after the first `://` in it. -/
structure FirstMark (cs before after : List Char) : Prop where
  eq_append : cs = before ++ ':' :: '/' :: '/' :: after
  first : ∀ early late, cs = early ++ ':' :: '/' :: '/' :: late → before.length ≤ early.length

namespace FirstMark

/-- There is one first mark. -/
theorem unique {cs before after start rest : List Char} (h : FirstMark cs before after)
    (h' : FirstMark cs start rest) : before = start ∧ after = rest := by
  have hlength : before.length = start.length :=
    Nat.le_antisymm (h.first _ _ h'.eq_append) (h'.first _ _ h.eq_append)
  obtain ⟨hbefore, hafter⟩ := List.append_inj (h.eq_append.symm.trans h'.eq_append) hlength
  exact ⟨hbefore, by simpa using hafter⟩

/-- A mark without a colon in front of it is the first one. -/
theorem of_no_colon {before : List Char} (hcolon : ':' ∉ before) (after : List Char) :
    FirstMark (before ++ ':' :: '/' :: '/' :: after) before after where
  eq_append := rfl
  first := by
    intro early late heq
    rcases List.append_eq_append_iff.1 heq with ⟨more, hearly, -⟩ | ⟨more, hbefore, hmark⟩
    · rw [hearly, List.length_append]
      exact Nat.le_add_right _ _
    · cases more with
      | nil => exact Nat.le_of_eq (congrArg List.length (hbefore.trans (List.append_nil _)))
      | cons c more =>
          obtain ⟨rfl, -⟩ := List.cons.inj hmark
          exact absurd (hbefore ▸ by simp) hcolon

end FirstMark

theorem length_le_of_splitAuthorityMark {cs before after early late : List Char}
    (hsplit : splitAuthorityMark cs = some (before, after))
    (hmark : cs = early ++ ':' :: '/' :: '/' :: late) : before.length ≤ early.length := by
  induction early generalizing cs before with
  | nil =>
      subst hmark
      cases hsplit
      exact Nat.le_refl _
  | cons c early ih =>
      subst hmark
      rw [List.cons_append] at hsplit
      unfold splitAuthorityMark at hsplit
      split at hsplit
      · cases hsplit
        exact Nat.zero_le _
      · next hcons =>
          cases hcons
          obtain ⟨⟨start, rest⟩, hrest, heq⟩ := Option.map_eq_some_iff.1 hsplit
          cases heq
          exact Nat.succ_le_succ (ih hrest rfl)
      · cases hsplit

theorem exists_splitAuthorityMark (early late : List Char) :
    ∃ before after,
      splitAuthorityMark (early ++ ':' :: '/' :: '/' :: late) = some (before, after) := by
  induction early with
  | nil => exact ⟨[], late, rfl⟩
  | cons c early ih =>
      obtain ⟨before, after, hrest⟩ := ih
      rw [List.cons_append]
      unfold splitAuthorityMark
      split
      · exact ⟨_, _, rfl⟩
      · next hcons =>
          cases hcons
          rw [hrest]
          exact ⟨_, _, rfl⟩
      · next hnil => cases hnil

/-- A text is split at its first `://`. -/
theorem splitAuthorityMark_eq_some_iff {cs before after : List Char} :
    splitAuthorityMark cs = some (before, after) ↔ FirstMark cs before after := by
  have hfound {start rest : List Char} (hsplit : splitAuthorityMark cs = some (start, rest)) :
      FirstMark cs start rest :=
    ⟨eq_of_splitAuthorityMark hsplit, fun _ _ hmark => length_le_of_splitAuthorityMark hsplit hmark⟩
  constructor
  · exact hfound
  · intro hfirst
    obtain ⟨start, rest, hsplit⟩ := exists_splitAuthorityMark before after
    rw [← hfirst.eq_append] at hsplit
    obtain ⟨rfl, rfl⟩ := hfirst.unique (hfound hsplit)
    exact hsplit

/-! ## Origins -/

/-- The characters that end an authority. -/
def authorityEnds : List Char := ['/', '?', '#', '\\']

theorem endsAuthority_iff {c : Char} : endsAuthority c = true ↔ c ∈ authorityEnds := by
  simp [endsAuthority, authorityEnds, or_assoc]

/-- Nothing in an origin is taken for the marks around its parts: there is no colon in the scheme, and
nothing in the host that ends an authority. -/
structure Origin.IsDelimited (origin : Origin) : Prop where
  scheme : ':' ∉ origin.scheme.toList
  host : ∀ host, origin.host = some host → ∀ c ∈ authorityEnds, c ∉ host.toList

theorem not_mem_of_isAuthority {cs : List Char} (hauthority : RequestTarget.isAuthority cs = true) :
    ∀ c ∈ authorityEnds, c ∉ cs := by
  intro c hends hc
  obtain ⟨scan, after, hnext⟩ := RequestTarget.exists_next_of_mem hauthority hc
  simp only [authorityEnds, List.mem_cons, List.not_mem_nil, or_false] at hends
  rcases hends with rfl | rfl | rfl | rfl <;> cases hnext

/-- An origin is delimited if the host comes from the target of the request. -/
theorem Origin.isDelimited_ofRequest {written : String} {target : RequestTarget} {headers : Headers}
    (hread : RequestTarget.parse? written = some target) (hunnamed : namedHost? headers = none)
    (tls : Bool) : (ofRequest target headers tls).IsDelimited := by
  obtain ⟨hscheme, hauthority⟩ := RequestTarget.parts_of_parse? hread
  constructor
  · have hweb : ∀ scheme ∈ ["http", "https"], ':' ∉ scheme.toList := by decide
    cases tls with
    | true => exact hweb "https" (by simp)
    | false =>
        cases hgiven : target.scheme with
        | none =>
            rw [ofRequest, hgiven]
            exact hweb "http" (by simp)
        | some scheme =>
            rw [ofRequest, hgiven]
            exact fun hcolon => absurd (hscheme scheme hgiven _ hcolon) (by decide)
  · intro host hhost
    rw [ofRequest, hunnamed, Option.none_or] at hhost
    exact not_mem_of_isAuthority (hauthority host hhost)

/-! ## Relocating twice -/

/-- If anything is kept of a relocated location, it is what was kept before. -/
theorem afterAuthority?_moved {location host rest again : String} {origin : Origin}
    (hdelimited : origin.IsDelimited) (hhost : origin.host = some host)
    (hkept : afterAuthority? location = some rest)
    (hagain : afterAuthority? (origin.scheme ++ "://" ++ host ++ rest) = some again) :
    again = rest := by
  obtain ⟨_, before, after, -, -, -, -, rfl⟩ := afterAuthority?_eq_some_iff.1 hkept
  obtain ⟨_, start, behind, -, -, hsplit, -, rfl⟩ := afterAuthority?_eq_some_iff.1 hagain
  simp only [endsAuthority_eq] at hsplit ⊢
  obtain ⟨-, tail, -, -, htail, hcut⟩ := Url.cut_at_authority after
  rw [hcut] at hsplit ⊢
  have hinside : Url.Inside host.toList := by
    intro c hc
    rw [← endsAuthority_eq, Bool.eq_false_iff]
    exact fun hends => hdelimited.host host hhost c (endsAuthority_iff.1 hends) hc
  have hfirst := FirstMark.of_no_colon hdelimited.scheme (host.toList ++ tail)
  have hchars : (origin.scheme ++ "://" ++ host ++ String.ofList tail).toList =
      origin.scheme.toList ++ ':' :: '/' :: '/' :: (host.toList ++ tail) := by
    simp
  rw [hchars] at hsplit
  obtain ⟨-, rfl⟩ := hfirst.unique (splitAuthorityMark_eq_some_iff.1 hsplit)
  rw [Url.dropWhile_inside_append hinside htail]

theorem relocate_relocate (location : String) {origin : Origin} (hdelimited : origin.IsDelimited) :
    relocate (relocate location origin) origin = relocate location origin := by
  by_cases hmoved : relocate location origin = location
  · rw [hmoved, hmoved]
  · obtain ⟨host, rest, hhost, hkept, hvalue⟩ := exists_of_relocate_ne hmoved
    by_contra hagain
    obtain ⟨host', again, hhost', hkept', hvalue'⟩ := exists_of_relocate_ne hagain
    obtain rfl : host = host' := Option.some.inj (hhost.symm.trans hhost')
    rw [hvalue] at hkept'
    obtain rfl := afterAuthority?_moved hdelimited hhost hkept hkept'
    exact hagain (hvalue'.trans hvalue.symm)

/-- Only a URL with a host is moved, and only if its own scheme stands in front of the first mark. -/
theorem exists_url_of_relocate_ne {location : String} {origin : Origin}
    (hmoved : relocate location origin ≠ location) :
    ∃ url before after, Url.parse location = .ok url ∧ url.hasHost = true ∧
      FirstMark location.toList before after ∧
      before.map Char.toLower = url.scheme.toList.map Char.toLower := by
  obtain ⟨_, _, -, hkept, -⟩ := exists_of_relocate_ne hmoved
  obtain ⟨url, before, after, hread, hhost, hsplit, hscheme, -⟩ :=
    afterAuthority?_eq_some_iff.1 hkept
  refine ⟨url, before, after, hread, hhost, splitAuthorityMark_eq_some_iff.1 hsplit, ?_⟩
  rw [← hscheme, List.map_map]
  exact List.map_congr_left fun c _ => (Text.toLower_toLower c).symm

/-- For an origin whose parts hold none of the marks around them, relocating a location twice is
relocating it once, whether or not the relocated text can be read. A location that cannot be read, that
has no host, or that has anything but its own scheme in front of the first `://`, in letters of any
size, stays as it is for every origin. -/
theorem relocate_idempotent (location : String) (origin : Origin) :
    (origin.IsDelimited →
      relocate (relocate location origin) origin = relocate location origin) ∧
    (∀ e, Url.parse location = .error e → relocate location origin = location) ∧
    ∀ url, Url.parse location = .ok url →
      (url.hasHost = false → relocate location origin = location) ∧
      ((∀ before after, FirstMark location.toList before after →
          before.map Char.toLower ≠ url.scheme.toList.map Char.toLower) →
        relocate location origin = location) := by
  refine ⟨relocate_relocate location, fun e hrefused => ?_,
    fun url hread => ⟨fun hnone => ?_, fun hother => ?_⟩⟩
  · by_contra hmoved
    obtain ⟨url, -, -, hread, -⟩ := exists_url_of_relocate_ne hmoved
    cases hrefused.symm.trans hread
  · by_contra hmoved
    obtain ⟨again, -, -, hagain, hhost, -⟩ := exists_url_of_relocate_ne hmoved
    obtain rfl : url = again := Except.ok.inj (hread.symm.trans hagain)
    cases hnone.symm.trans hhost
  · by_contra hmoved
    obtain ⟨again, before, after, hagain, -, hfirst, hscheme⟩ := exists_url_of_relocate_ne hmoved
    obtain rfl : url = again := Except.ok.inj (hread.symm.trans hagain)
    exact hother before after hfirst hscheme

/-- A request names a port that no URL may have, and what is kept looks like another URL. -/
theorem relocate_idempotent_refused :
    ∃ target, RequestTarget.parse? "HTTPS://todo.example:99999/x" = some target ∧
      let origin := Origin.ofRequest target .empty false
      let moved := relocate "http://b\\c://d" origin
      origin.IsDelimited ∧ moved = "https://todo.example:99999\\c://d" ∧
        Url.parse moved = .error .portNumber ∧ relocate moved origin = moved := by
  let target : RequestTarget := ⟨some "https", some "todo.example:99999", "/x", none⟩
  have hread : RequestTarget.parse? "HTTPS://todo.example:99999/x" = some target := by decide +kernel
  have hdelimited := Origin.isDelimited_ofRequest hread (rfl : Origin.namedHost? .empty = none) false
  refine ⟨target, hread, hdelimited, by decide +kernel, by decide +kernel, ?_⟩
  exact (relocate_idempotent "http://b\\c://d" (.ofRequest target .empty false)).1 hdelimited

/-- A host that a `Host` field names may hold a slash, and then every gateway adds what is behind it. -/
example :
    let origin : Origin := ⟨"http", some "a/b"⟩
    relocate "http://c/d" origin = "http://a/b/d" ∧ relocate "http://a/b/d" origin = "http://a/b/b/d" := by
  decide +kernel

end Gatehouse.Relay
