import Gatehouse.Proofs.Relay.Location
import Gatehouse.Proofs.Url.HostPort
import Gatehouse.Proofs.Url.Layout

/-!
# Relocated URLs

A client reads a relocated URL with the scheme, the host and the port of the inbound origin, and with
the query and the fragment of the original. It reads the path of the original, too, if the authority
stands right behind `://`. Where a reader of URLs skips more slashes first, the cut is made before
these, and the old authority becomes a part of the path.
-/

namespace Gatehouse.Relay

open Url (HostPort Layout webSchemes)

/-- What is kept of a URL, as it is read: what stands behind its authority, or all that stands behind
`://` if slashes are skipped there. -/
theorem exists_layout_of_afterAuthority? {location rest : String} {url : Url}
    (hread : Url.parse location = .ok url) (hscheme : url.scheme ∈ webSchemes)
    (hkept : afterAuthority? location = some rest) :
    ∃ (name : List Char) (layout : Layout) (short : Url),
      name.map Char.toLower = url.scheme.toList ∧
        Url.cleaned location.toList = name ++ ':' :: '/' :: '/' :: layout.text ∧
        url = short.withTail layout.rest ∧
        Url.cleanedEnd rest.toList = if layout.skipped = [] then layout.rest else layout.text := by
  obtain ⟨again, name, after, hagain, -, hsplit, hname, rfl⟩ :=
    afterAuthority?_eq_some_iff.1 hkept
  obtain rfl : again = url := Except.ok.inj (hagain.symm.trans hread)
  have hchars := eq_of_splitAuthorityMark hsplit
  have hparse := Url.parse_of_scheme hname hscheme after
  rw [← hchars, String.ofList_toList, hread] at hparse
  obtain ⟨layout, htext, short, -, hurl⟩ := Layout.exists_of_read hparse.symm
  refine ⟨name, layout, short, hname, ?_, hurl, ?_⟩
  · rw [hchars, Url.cleaned_of_scheme hname hscheme, htext]
  · simp only [endsAuthority_eq]
    rw [String.toList_ofList, Url.cleanedEnd_dropWhile, htext, layout.dropWhile_text]

/-- A URL of the web that does not stay as it is goes to the host and the port of the origin. The
query and the fragment stay, and the path does unless slashes are skipped in front of the authority:
then the path is made of these slashes, the authority and what stood behind it. -/
theorem parse_relocate (location : String) (origin : Origin) {url : Url} {text : String}
    {host : Url.Host} {port : Option Nat} (hread : Url.parse location = .ok url)
    (hscheme : url.scheme ∈ webSchemes) (horigin : origin.scheme ∈ webSchemes)
    (hhost : origin.host = some text) (hport : HostPort text.toList host port)
    (hmoved : relocate location origin ≠ location) :
    ∃ (name : List Char) (layout : Layout),
      name.map Char.toLower = url.scheme.toList ∧
        Url.cleaned location.toList = name ++ ':' :: '/' :: '/' :: layout.text ∧
        Url.parse (relocate location origin) =
          .ok
            { scheme := origin.scheme, username := "", password := none, host := some host
              port := port.filter fun n => Url.defaultPort? origin.scheme ≠ some n
              path :=
                if layout.skipped = [] then url.path
                else String.ofList (Url.pathPart .special layout.text)
              query := url.query, fragment := url.fragment } := by
  obtain ⟨given, rest, hgiven, hkept, hvalue⟩ := exists_of_relocate_ne hmoved
  obtain rfl : given = text := Option.some.inj (hgiven.symm.trans hhost)
  obtain ⟨name, layout, short, hname, hcleaned, rfl, hrest⟩ :=
    exists_layout_of_afterAuthority? hread hscheme hkept
  have hsome : given ≠ "" := fun hnone => hport.ne_nil (String.toList_eq_nil_iff.2 hnone)
  have hends : Url.cleanedEnd rest.toList = [] ∨ Url.EndsAuthority (Url.cleanedEnd rest.toList) := by
    rw [hrest]
    split
    · exact layout.rest_ends
    · next hskipped => exact .inr (layout.endsAuthority_text hskipped)
  refine ⟨name, layout, hname, hcleaned, ?_⟩
  rw [hvalue, Url.parse_of_unbroken horigin hport.unbroken hsome]
  refine (Url.ofAuthority_append_eq_ok_iff hport.unbroken.inside hends).2
    ⟨_, hport.ofAuthority_eq origin.scheme, ?_⟩
  rw [hrest]
  by_cases hskipped : layout.skipped = []
  · rw [if_pos hskipped, if_pos hskipped]
    rfl
  · rw [if_neg hskipped, if_neg hskipped, layout.withTail_text]
    rfl

/-- A user and a port go with the old host, and a backslash ends the authority. The port of the inbound
origin is the one of its scheme. -/
theorem parse_relocate_userinfo :
    let location := "HTTP://user:pw@task-service:9000\\a?to=http://b#c"
    let back := relocate location ⟨"https", some "todo.example:443"⟩
    back ≠ location ∧ HostPort "todo.example:443".toList (.name "todo.example") (some 443) ∧
      ∃ moved, Url.parse back = .ok moved ∧ moved.scheme = "https" ∧
        moved.host = some (.name "todo.example") ∧ moved.port = none ∧
        moved.query = some "to=http://b" ∧ moved.fragment = some "c" := by
  intro location back
  let url : Url :=
    ⟨"http", "user", some "pw", some (.name "task-service"), some 9000, "/a", some "to=http://b",
      some "c"⟩
  have hread : Url.parse location = .ok url := by decide +kernel
  have hname : Url.Host.parse "todo.example".toList = .ok (.name "todo.example") := by
    decide +kernel
  have hdigits : "443".toList.all Char.isDigit = true := by decide
  have hnumber : Url.PortText ":443".toList (some 443) :=
    .number (by decide) (List.all_eq_true.1 hdigits) (by decide)
  have hport : HostPort "todo.example:443".toList (.name "todo.example") (some 443) :=
    .intro hname hnumber
  have hmoved : back ≠ location := by decide +kernel
  obtain ⟨name, layout, -, -, hback⟩ := parse_relocate location
    ⟨"https", some "todo.example:443"⟩ hread (by decide) (by decide) rfl hport hmoved
  exact ⟨hmoved, hport, _, hback, rfl, rfl, rfl, rfl, rfl⟩

/-- One more slash is enough: the service and its page are read as a path of the gateway. -/
theorem path_of_skipped_slash :
    let location := "http:///task-service/x"
    let origin : Origin := ⟨"https", some "todo.example"⟩
    HostPort "todo.example".toList (.name "todo.example") none ∧
      relocate location origin = "https://todo.example/task-service/x" ∧
      ∃ url moved, Url.parse location = .ok url ∧ url.scheme = "http" ∧ url.hasHost = true ∧
        Url.parse (relocate location origin) = .ok moved ∧
        url.path = "/x" ∧ moved.path = "/task-service/x" := by
  intro location origin
  let url : Url := ⟨"http", "", none, some (.name "task-service"), none, "/x", none, none⟩
  let moved : Url :=
    ⟨"https", "", none, some (.name "todo.example"), none, "/task-service/x", none, none⟩
  have hname : Url.Host.parse "todo.example".toList = .ok (.name "todo.example") := by
    decide +kernel
  have hport : HostPort ("todo.example".toList ++ []) (.name "todo.example") none :=
    .intro hname .absent
  have hread : Url.parse location = .ok url := by decide +kernel
  have hback : relocate location origin = "https://todo.example/task-service/x" := by
    decide +kernel
  have hmoved : Url.parse "https://todo.example/task-service/x" = .ok moved := by decide +kernel
  exact ⟨hport, hback, url, moved, hread, rfl, by decide, hback ▸ hmoved, rfl, rfl⟩

end Gatehouse.Relay
