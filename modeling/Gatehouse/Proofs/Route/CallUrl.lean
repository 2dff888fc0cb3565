import Gatehouse.Proofs.Http.AbsoluteTarget
import Gatehouse.Proofs.Route.NormalForm
import Gatehouse.Proofs.Route.Precedence

/-!
# URLs to call

The URL that a path resolves to is the origin of a target and then a slash, whatever the path and the
query hold, so that neither can reach into the authority. For a path with a leading slash, stripping the
prefix and joining it again cancel out: what follows the base path is the path itself, but for one final
slash behind a prefix. The base path is the path of the base URL up to its final slashes.
-/

namespace Gatehouse.Route

open Http (RequestTarget)

/-! ## The base path -/

/-- Only final slashes of the path of the base URL are not in the base path. -/
theorem Target.exists_path_eq (target : Target) :
    ∃ n, target.base.path = target.basePath ++ slashes n :=
  exists_slashes_eq target.base.path

/-- No slash is left at the end of a base path. -/
theorem Target.basePath_ne_append_slash (target : Target) (s : String) :
    target.basePath ≠ s ++ "/" := by
  intro hbase
  have hlast : (Text.dropEndWhile isSlash target.base.path.toList).getLast? = some '/' := by
    rw [← String.toList_ofList (l := Text.dropEndWhile _ _), ← Target.basePath, hbase]
    simp
  have hkept := Text.getLast?_dropEndWhile hlast
  simp [isSlash] at hkept

/-! ## The start of a URL -/

/-- A base path is empty or begins with a slash. -/
theorem Target.basePath_cases (target : Target) :
    target.basePath = "" ∨ ∃ rest, target.basePath = "/" ++ rest := by
  obtain ⟨written, hparsed⟩ := target.base_parsed
  obtain ⟨rest, hpath⟩ := Url.exists_path_of_parse hparsed target.base_http
  obtain ⟨run, hrun, -⟩ := Text.exists_run_dropEndWhile isSlash target.base.path.toList
  unfold Target.basePath
  cases hkept : Text.dropEndWhile isSlash target.base.path.toList with
  | nil => exact .inl rfl
  | cons c kept =>
      rw [hkept, hpath] at hrun
      cases hrun
      exact .inr ⟨String.ofList kept, String.toList_injective (by simp)⟩

theorem Target.unbroken_authority (target : Target) : Url.Unbroken target.base.authority.toList := by
  obtain ⟨written, hparsed⟩ := target.base_parsed
  exact Url.unbroken_authority_of_parse hparsed target.base_http

theorem Target.inside_authority (target : Target) : Url.Inside target.base.authority.toList :=
  target.unbroken_authority.inside

theorem Target.origin_eq (target : Target) :
    target.base.origin = "http://" ++ target.base.authority := by
  rw [Url.origin, target.base_http]
  rfl

theorem Target.callPath_of_isCatchAll {target : Target}
    (hall : target.pathPrefix.isCatchAll = true) (remainder : String) :
    target.callPath remainder = "/" ++ remainder := by
  simp [Target.callPath, hall]

theorem Target.callPath_empty {target : Target} (hsome : target.pathPrefix.isCatchAll = false) :
    target.callPath "" = target.pathPrefix.text := by
  simp [Target.callPath, hsome]

theorem Target.callPath_of_ne_empty {target : Target}
    (hsome : target.pathPrefix.isCatchAll = false) {remainder : String} (hrest : remainder ≠ "") :
    target.callPath remainder = target.pathPrefix.text ++ "/" ++ remainder := by
  simp [Target.callPath, hsome, hrest, String.append_assoc]

theorem Target.exists_callPath_eq (target : Target) (remainder : String) :
    ∃ rest, target.callPath remainder = "/" ++ rest := by
  cases hall : target.pathPrefix.isCatchAll with
  | true => exact ⟨remainder, target.callPath_of_isCatchAll hall remainder⟩
  | false =>
      obtain ⟨text, htext⟩ := target.pathPrefix.exists_text_eq
      by_cases hrest : remainder = ""
      · rw [hrest, Target.callPath_empty hall]
        exact ⟨text, htext⟩
      · rw [Target.callPath_of_ne_empty hall hrest, htext]
        exact ⟨text ++ "/" ++ remainder, by simp only [String.append_assoc]⟩

/-- A slash follows the authority in every URL to call. -/
theorem Target.exists_callUrl_eq (target : Target) (remainder : String) (query : Option String) :
    ∃ rest, target.callUrl remainder query = "http://" ++ target.base.authority ++ "/" ++ rest := by
  rw [Target.callUrl, target.origin_eq]
  rcases target.basePath_cases with hbase | ⟨start, hbase⟩
  · obtain ⟨rest, hpath⟩ := target.exists_callPath_eq remainder
    refine ⟨rest ++ Target.writtenQuery query, ?_⟩
    rw [hbase, hpath]
    simp only [String.append_assoc, String.empty_append]
  · refine ⟨start ++ target.callPath remainder ++ Target.writtenQuery query, ?_⟩
    rw [hbase]
    simp only [String.append_assoc]

/-! ## The whole of a URL -/

/-- Joining again gives back a path with a leading slash that a prefix has stripped, unless the prefix
and one slash are all of it. -/
theorem Target.callPath_of_strip? {target : Target} {path remainder start : String}
    (hpath : path = "/" ++ start)
    (hstrip : target.pathPrefix.strip? path = some remainder)
    (hslash : target.pathPrefix.isCatchAll = false → path ≠ target.pathPrefix.text ++ "/") :
    target.callPath remainder = path := by
  cases hall : target.pathPrefix.isCatchAll with
  | true =>
      rw [hpath, PathPrefix.strip?_slash_append hall] at hstrip
      cases hstrip
      rw [Target.callPath_of_isCatchAll hall, hpath]
  | false =>
      rcases (PathPrefix.strip?_eq_some_iff hall).1 hstrip with ⟨hexact, hrest⟩ | hlonger
      · rw [hrest, Target.callPath_empty hall, hexact]
      · have hrest : remainder ≠ "" := by
          rintro rfl
          exact hslash hall (by simpa using hlonger)
        rw [Target.callPath_of_ne_empty hall hrest, hlonger]

/-- Behind the prefix of a target, a final slash alone leads to that target. -/
theorem Table.isLongest_of_text_append_slash {table : Table} {target : Target}
    (hmem : target ∈ table.targets) :
    target.IsLongest table.targets (target.pathPrefix.text ++ "/") := by
  have hslash : ("/" : String).utf8ByteSize = 1 := rfl
  refine ⟨hmem, .inr (.inr ⟨"", by simp⟩), ?_⟩
  rintro other - (hroot | hexact | ⟨rest, hlonger⟩)
  · obtain ⟨text, htext⟩ := target.pathPrefix.exists_text_eq
    rw [Target.prefixSize, Target.prefixSize, PathPrefix.size, PathPrefix.size, hroot, htext,
      String.utf8ByteSize_append]
    exact Nat.le_add_right _ _
  · have hother : other.pathPrefix.isCatchAll = true := by
      cases hall : other.pathPrefix.isCatchAll with
      | true => rfl
      | false => exact absurd hexact.symm (PathPrefix.text_ne_append_slash hall _)
    have hsize := congrArg String.utf8ByteSize hexact
    rw [PathPrefix.isCatchAll_iff.1 hother, String.utf8ByteSize_append, hslash] at hsize
    obtain ⟨text, htext⟩ := target.pathPrefix.exists_text_eq
    rw [htext, String.utf8ByteSize_append, hslash] at hsize
    omega
  · have hsize := congrArg String.utf8ByteSize hlonger
    simp only [String.utf8ByteSize_append, hslash] at hsize
    rw [Target.prefixSize, Target.prefixSize, PathPrefix.size, PathPrefix.size]
    omega

/-- Behind such a prefix and a final slash nothing is left of the path. -/
theorem PathPrefix.strip?_text_append_slash {p : PathPrefix} (hsome : p.isCatchAll = false) :
    p.strip? (p.text ++ "/") = some "" :=
  (strip?_eq_some_iff hsome).2 (.inr (by simp))

/-- The path that stands in a URL to call: the inbound path, less the slash that alone is left behind a
prefix. -/
def Target.calledPath (target : Target) (path : String) : String :=
  if target.pathPrefix.isCatchAll = false ∧ path = target.pathPrefix.text ++ "/" then
    target.pathPrefix.text
  else path

theorem Target.callPath_eq_calledPath {target : Target} {path remainder start : String}
    (hpath : path = "/" ++ start) (hstrip : target.pathPrefix.strip? path = some remainder) :
    target.callPath remainder = target.calledPath path := by
  unfold Target.calledPath
  split
  · next hslash =>
      obtain ⟨hsome, hslash⟩ := hslash
      rw [hslash, PathPrefix.strip?_text_append_slash hsome] at hstrip
      cases hstrip
      exact Target.callPath_empty hsome
  · next hslash =>
      exact Target.callPath_of_strip? hpath hstrip fun hsome heq => hslash ⟨hsome, heq⟩

/-- The URL that a path and a query resolve to is the origin of the target, which holds nothing that
could end an authority early, and then a slash: however the path and the query begin, the authority that
is called is the target's. If the path begins with a slash, the URL is the origin, the base path, the
path and the query as they are, except that the final slash is dropped from a path made of the prefix of
a target and a slash, and such a path resolves to that target. The base path is the path of the base URL
without all the slashes at its end. -/
theorem Table.resolve_url (table : Table) (path : String) (query : Option String) :
    ∃ target ∈ table.targets, (table.resolve path query).target = target ∧
      target.base.origin = "http://" ++ target.base.authority ∧
      Url.Inside target.base.authority.toList ∧
      (∃ n, target.base.path = target.basePath ++ slashes n) ∧ (∀ s, target.basePath ≠ s ++ "/") ∧
      (∃ rest, (table.resolve path query).url = target.base.origin ++ "/" ++ rest) ∧
      (∀ called, RequestTarget.parse? (table.resolve path query).url = some called →
        called.scheme = some "http" ∧ called.authority = some target.base.authority) ∧
      (∀ start, path = "/" ++ start → (table.resolve path query).url =
        target.base.origin ++ target.basePath ++ target.calledPath path ++
          query.elim "" ("?" ++ ·)) ∧
      ∀ other ∈ table.targets, path = other.pathPrefix.text ++ "/" → target = other := by
  obtain ⟨target, remainder, hlongest, hstrip, hresolve⟩ := table.resolve_spec path
  obtain ⟨rest, hurl⟩ := target.exists_callUrl_eq remainder query
  refine ⟨target, hlongest.1, ?_⟩
  rw [hresolve]
  refine ⟨rfl, target.origin_eq, target.inside_authority, target.exists_path_eq,
    target.basePath_ne_append_slash, ⟨rest, ?_⟩, ?_, ?_, ?_⟩
  · rw [hurl, target.origin_eq]
  · intro called hcalled
    dsimp only at hcalled
    rw [hurl, RequestTarget.parse?_http target.inside_authority] at hcalled
    split at hcalled
    · cases hcalled
    · split at hcalled
      · obtain ⟨⟨shown, asked⟩, -, rfl⟩ := Option.map_eq_some_iff.1 hcalled
        exact ⟨rfl, rfl⟩
      · cases hcalled
  · intro start hpath
    dsimp only
    rw [Target.callUrl, Target.callPath_eq_calledPath hpath hstrip]
    cases query with
    | none => rfl
    | some query => rfl
  · intro other hother hslash
    rw [hslash] at hlongest
    exact hlongest.unique (Table.isLongest_of_text_append_slash hother)

end Gatehouse.Route
