import Gatehouse.Proofs.Relay.Location
import Gatehouse.Proofs.Route.CallUrl
import Gatehouse.Proofs.Url.Layout

/-!
# Redirects of a service to itself

A service that redirects to the very URL it was called by sends the client back to where it came
from: the gateway cuts the URL right behind the origin that it had put in front, whatever the path
and the query hold.
-/

namespace Gatehouse.Relay

open Route (Table Target)

/-- An `http` URL is cut right behind its authority. -/
theorem afterAuthority?_http {authority rest : String} {url : Url}
    (hinside : Url.Inside authority.toList)
    (hread : Url.parse ("http://" ++ authority ++ "/" ++ rest) = .ok url)
    (hscheme : url.scheme = "http") (hhost : url.hasHost = true) :
    afterAuthority? ("http://" ++ authority ++ "/" ++ rest) = some ("/" ++ rest) := by
  have hchars : ("http://" ++ authority ++ "/" ++ rest).toList =
      'h' :: 't' :: 't' :: 'p' :: ':' :: '/' :: '/' :: (authority.toList ++ '/' :: rest.toList) := by
    simp
  have hsplit : splitAuthorityMark
      ('h' :: 't' :: 't' :: 'p' :: ':' :: '/' :: '/' :: (authority.toList ++ '/' :: rest.toList)) =
      some (['h', 't', 't', 'p'], authority.toList ++ '/' :: rest.toList) := rfl
  have hkept : (authority.toList ++ '/' :: rest.toList).dropWhile (fun c => !endsAuthority c) =
      '/' :: rest.toList := by
    rw [List.dropWhile_append_of_pos, List.dropWhile_cons_of_neg (by decide)]
    intro c hc
    rw [endsAuthority_eq, hinside c hc]
    rfl
  have hname : ['h', 't', 't', 'p'].map Char.toLower = url.scheme.toList := by
    rw [hscheme]
    decide
  rw [← hchars] at hsplit
  refine afterAuthority?_eq_some_iff.2 ⟨url, _, _, hread, hhost, hsplit, hname, ?_⟩
  rw [hkept]
  exact String.toList_injective (by simp)

/-- Whatever is called at a target whose own origin is read as a URL with a host again, the inbound
origin takes the place of that origin and nothing else changes. -/
theorem relocate_callUrl {target : Target} {again : Url}
    (hread : Url.parse target.base.origin = .ok again) (hhost : again.hasHost = true)
    (remainder : String) (query : Option String) (scheme host : String) :
    relocate (target.callUrl remainder query) ⟨scheme, some host⟩ =
      scheme ++ "://" ++ host ++
        (target.basePath ++ target.callPath remainder ++ Target.writtenQuery query) := by
  obtain ⟨rest, hslash⟩ := target.exists_callUrl_eq remainder query
  have hrest : target.basePath ++ target.callPath remainder ++ Target.writtenQuery query =
      "/" ++ rest := by
    rw [Target.callUrl, target.origin_eq] at hslash
    refine (String.append_right_inj ("http://" ++ target.base.authority)).1 ?_
    simpa only [String.append_assoc] using hslash
  rw [target.origin_eq] at hread
  obtain ⟨url, hurl, hscheme, hsame⟩ :=
    Url.exists_parse_append target.unbroken_authority hread rest
  have hcut := afterAuthority?_http target.inside_authority hurl hscheme (hsame.trans hhost)
  rw [hslash, hrest, relocate]
  dsimp only
  rw [hcut]

/-- A service redirects to the URL that it was called by. If the origin of the target, as it is
printed, is read as a URL with a host again, the client is sent to the inbound origin, the base
path, and the path and query it had asked for, for any text in them, the slash apart that is dropped
behind a prefix. Without a base path these are its own path and query. -/
theorem relocate_resolve (table : Table) (start : String) (query : Option String)
    (scheme host : String) {again : Url}
    (hread : Url.parse (table.resolve ("/" ++ start) query).target.base.origin = .ok again)
    (hhost : again.hasHost = true) :
    let called := table.resolve ("/" ++ start) query
    let back := relocate called.url ⟨scheme, some host⟩
    let asked := called.target.calledPath ("/" ++ start) ++ query.elim "" ("?" ++ ·)
    back = scheme ++ "://" ++ host ++ called.target.basePath ++ asked ∧
      (called.target.base.path = "/" → back = scheme ++ "://" ++ host ++ asked) := by
  obtain ⟨target, remainder, -, hstrip, hresolve⟩ := table.resolve_spec ("/" ++ start)
  rw [hresolve] at hread ⊢
  dsimp only at hread ⊢
  have hquery : Target.writtenQuery query = query.elim "" ("?" ++ ·) := by
    cases query with
    | none => rfl
    | some query => rfl
  rw [relocate_callUrl hread hhost, Target.callPath_eq_calledPath rfl hstrip, hquery]
  refine ⟨by simp only [String.append_assoc], fun hroot => ?_⟩
  have hbase : target.basePath = "" := by
    rw [Target.basePath, hroot]
    rfl
  rw [hbase, String.empty_append]

/-- The host of the service is an address, behind a user and a password, and the path looks like the
start of another URL. -/
theorem relocate_resolve_userinfo :
    ∃ service table,
      Target.create "frontend" "/" "http://user:pw@[::1]:8080" = .ok service ∧
      Table.ofTargets [service] = .ok table ∧
      Url.parse service.base.origin = .ok service.base ∧
      relocate (table.resolve "/a/../b\\'://c" (some "to=http://d/")).url
          ⟨"https", some "todo.example"⟩ =
        "https://todo.example/a/../b\\'://c?to=http://d/" := by
  let base : Url :=
    ⟨"http", "user", some "pw", some (.ipv6 [0, 0, 0, 0, 0, 0, 0, 1]), some 8080, "/", none, none⟩
  let service : Target :=
    ⟨"frontend", .ofString "/", base, ⟨"http://user:pw@[::1]:8080", by decide +kernel⟩, rfl, rfl⟩
  have hservice : Target.create "frontend" "/" "http://user:pw@[::1]:8080" = .ok service := by
    decide +kernel
  have hagain : Url.parse service.base.origin = .ok service.base := by decide +kernel
  have haccepted : ∃ table, Table.ofTargets [service] = .ok table :=
    Table.exists_ofTargets_iff.2 ⟨by simp, service, List.mem_cons_self, by decide +kernel⟩
  obtain ⟨table, htable⟩ := haccepted
  have htarget (path : String) (query : Option String) :
      (table.resolve path query).target = service := by
    obtain ⟨target, remainder, hlongest, -, hresolve⟩ := table.resolve_spec path
    rw [hresolve]
    exact List.mem_singleton.1 ((Table.mem_targets_of_ofTargets htable).1 hlongest.1)
  have hback := relocate_resolve table "a/../b\\'://c" (some "to=http://d/") "https" "todo.example"
    (by rwa [htarget]) rfl
  dsimp only at hback
  rw [htarget] at hback
  refine ⟨service, table, hservice, htable, hagain, (hback.2 rfl).trans ?_⟩
  decide +kernel

end Gatehouse.Relay
