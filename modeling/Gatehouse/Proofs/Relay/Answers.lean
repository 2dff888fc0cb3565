import Gatehouse.Proofs.Relay.Location
import Gatehouse.Proofs.Text.Blank
import Gatehouse.Relay.Fields

/-!
# Fields of relayed answers

What becomes of every field of an answer, name by name. A plain location is replaced by a text that
a field may hold, since the origin of a request is plain; the value that would be kept otherwise is
never used.
-/

namespace Gatehouse.Relay

open Http (FieldName FieldValue Headers IsPlain RequestTarget)

/-! ## Origins -/

namespace Origin

theorem isPlain_of_namedHost? {headers : Headers} {host : String}
    (hnamed : namedHost? headers = some host) : IsPlain host.toList := by
  obtain ⟨value, -, hnamed⟩ := Option.bind_eq_some_iff.1 hnamed
  obtain ⟨text, htext, hnamed⟩ := Option.bind_eq_some_iff.1 hnamed
  dsimp only at hnamed
  split at hnamed
  · cases hnamed
  · cases hnamed
    refine (Http.isPlain_of_text? htext).of_subset ?_
    rw [Text.trim, String.toList_ofList]
    exact (Text.stripWhile_sublist Text.isBlank text.toList).subset

/-- The origin of a request is plain. -/
theorem isPlain_ofRequest {written : String} {target : RequestTarget}
    (hread : RequestTarget.parse? written = some target) (headers : Headers) (tls : Bool) :
    IsPlain (ofRequest target headers tls).scheme.toList ∧
      ∀ host, (ofRequest target headers tls).host = some host → IsPlain host.toList := by
  have hhttp : IsPlain "http".toList ∧ IsPlain "https".toList := by decide
  obtain ⟨hscheme, hauthority⟩ := RequestTarget.isPlain_of_parse? hread
  constructor
  · unfold ofRequest
    dsimp only
    split
    · exact hhttp.2
    · cases hgiven : target.scheme with
      | none => exact hhttp.1
      | some scheme => exact hscheme scheme hgiven
  · intro host hhost
    rcases Option.or_eq_some_iff.1 hhost with hnamed | ⟨-, hgiven⟩
    · exact isPlain_of_namedHost? hnamed
    · exact hauthority host hgiven

end Origin

/-! ## Redirects -/

/-- The redirect of a request whose origin is plain: a plain location is relocated, any other value
stays as it is. -/
theorem relayedLocation_spec {origin : Origin} (hscheme : IsPlain origin.scheme.toList)
    (hhost : ∀ host, origin.host = some host → IsPlain host.toList) (value : FieldValue) :
    (∀ text, value.text? = some text →
      FieldValue.ofString? (relocate text origin) = some (relayedLocation value origin)) ∧
    (value.text? = none → relayedLocation value origin = value) := by
  constructor
  · intro text htext
    have hplain := isPlain_relocate (Http.isPlain_of_text? htext) hscheme hhost
    obtain ⟨shown, hshown, -⟩ := Http.exists_ofString?_of_isPlain hplain
    simp [relayedLocation, htext, hshown]
  · intro htext
    simp [relayedLocation, htext]

/-! ## Fields by name -/

theorem text_of_ofBytes? {bytes : Bytes} {name : FieldName}
    (hspelled : FieldName.ofBytes? bytes = some name) :
    name.text = Text.lowerAscii (Text.ofAscii bytes) := by
  unfold FieldName.ofBytes? at hspelled
  dsimp only at hspelled
  split at hspelled
  · cases hspelled
    rfl
  · cases hspelled

/-- The names of the fields of one connection, in small letters. -/
def connectionNames : List String :=
  ["connection", "keep-alive", "proxy-authenticate", "proxy-authorization", "te", "trailer", "trailers",
    "transfer-encoding", "upgrade"]

theorem mem_connectionFields_iff {name : FieldName} :
    name ∈ connectionFields ↔ name.text ∈ connectionNames := by
  have hnames : connectionNames.Perm (connectionFields.map (·.text)) := by decide
  rw [hnames.mem_iff, List.mem_map]
  constructor
  · intro hmem
    exact ⟨name, hmem, rfl⟩
  · rintro ⟨other, hmem, htext⟩
    rwa [FieldName.text_inj.1 htext] at hmem

theorem isRelayed_iff {name : FieldName} :
    isRelayed name = true ↔
      name.text ∉ connectionNames ∧ name ∉ [FieldName.contentLength, .location, .setCookie] := by
  rw [← mem_connectionFields_iff]
  simp [isRelayed, isConnectionField, and_assoc]

/-- The values of a name in a relayed answer: those that pass as they are, the redirect, the
cookies. -/
theorem values_responseFields (headers : Headers) (origin : Origin) (name : FieldName) :
    (responseFields headers origin).values name =
      (if isRelayed name then headers.values name else []) ++
        (if name = .location then
          (headers.values .location).head?.toList.map fun value => relayedLocation value origin
        else []) ++
        if name = .setCookie then headers.values name else [] := by
  unfold responseFields Headers.get?
  cases (headers.values .location).head? with
  | none => simp
  | some value => simp [@eq_comm _ FieldName.location]

theorem values_responseFields_setCookie (headers : Headers) (origin : Origin) :
    (responseFields headers origin).values .setCookie = headers.values .setCookie := by
  rw [values_responseFields, if_neg (by decide), if_neg (by decide), if_pos rfl]
  rfl

theorem values_responseFields_location (headers : Headers) (origin : Origin) :
    (responseFields headers origin).values .location =
      (headers.values .location).head?.toList.map fun value => relayedLocation value origin := by
  rw [values_responseFields, if_neg (by decide), if_pos rfl, if_neg (by decide), List.append_nil,
    List.nil_append]

theorem values_responseFields_of_not_isRelayed {headers : Headers} {origin : Origin}
    {name : FieldName} (hdropped : isRelayed name = false) (hlocation : name ≠ .location)
    (hcookie : name ≠ .setCookie) : (responseFields headers origin).values name = [] := by
  rw [values_responseFields, hdropped, if_neg Bool.false_ne_true, if_neg hlocation, if_neg hcookie]
  rfl

/-- The fields of an answer as the client of a request gets them. Every name but those of one
connection, the length, the redirect and the cookies keeps its values; those of one connection,
however they are spelled, and the length have none; every cookie stands by itself; and there is one
redirect if there was any, the first one: relocated if it is plain, which a field may hold, and else
as it was. -/
theorem responseFields_relays {written : String} {target : RequestTarget}
    (hread : RequestTarget.parse? written = some target) (inbound : Headers) (tls : Bool)
    (headers : Headers) :
    let origin := Origin.ofRequest target inbound tls
    let relayed := responseFields headers origin
    (∀ name : FieldName, name.text ∉ connectionNames →
      name ∉ [FieldName.contentLength, .location, .setCookie] →
        relayed.values name = headers.values name) ∧
    (∀ bytes name, FieldName.ofBytes? bytes = some name →
      Text.lowerAscii (Text.ofAscii bytes) ∈ connectionNames → relayed.values name = []) ∧
    relayed.values .contentLength = [] ∧
    relayed.values .setCookie = headers.values .setCookie ∧
    (relayed.values .location = [] ↔ headers.values .location = []) ∧
    ∀ first rest, headers.values .location = first :: rest →
      ∃ value, relayed.values .location = [value] ∧
        (∀ text, first.text? = some text →
          FieldValue.ofString? (relocate text origin) = some value) ∧
        (first.text? = none → value = first) := by
  intro origin relayed
  obtain ⟨hscheme, hhost⟩ := Origin.isPlain_ofRequest hread inbound tls
  refine ⟨?_, ?_, values_responseFields_of_not_isRelayed (by decide) (by decide) (by decide),
    values_responseFields_setCookie headers origin, ?_, ?_⟩
  · intro name hkept hother
    have hnames := hother
    simp only [List.mem_cons, List.not_mem_nil, or_false, not_or] at hnames
    rw [values_responseFields, if_pos (isRelayed_iff.2 ⟨hkept, hother⟩), if_neg hnames.2.1,
      if_neg hnames.2.2, List.append_nil, List.append_nil]
  · intro bytes name hspelled hdropped
    have htext := text_of_ofBytes? hspelled
    rw [← htext] at hdropped
    have hother (other : FieldName) (hkept : other.text ∉ connectionNames) : name ≠ other :=
      fun heq => hkept (heq ▸ hdropped)
    refine values_responseFields_of_not_isRelayed ?_ (hother _ (by decide)) (hother _ (by decide))
    exact Bool.eq_false_iff.2 fun hrelayed => (isRelayed_iff.1 hrelayed).1 hdropped
  · rw [values_responseFields_location]
    cases headers.values .location with
    | nil => exact ⟨fun _ => rfl, fun _ => rfl⟩
    | cons first rest => exact ⟨nofun, nofun⟩
  · intro first rest hfirst
    obtain ⟨hplain, hopaque⟩ := relayedLocation_spec hscheme hhost first
    refine ⟨relayedLocation first origin, ?_, hplain, hopaque⟩
    rw [values_responseFields_location, hfirst]
    rfl

/-- Cookies on both sides of other fields, and a second redirect behind the first. -/
theorem responseFields_relays_redirect :
    let inbound := Headers.empty.append .host (.ofPlain "todo.example:8443")
    let headers := ((((Headers.empty.append .setCookie (.ofPlain "a=1")).append .connection
      (.ofPlain "close")).append .location (.ofPlain "http://frontend:5000/x?q='v'#top")).append
      .setCookie (.ofPlain "b=2")).append .location (.ofPlain "/y")
    let target : RequestTarget := ⟨none, none, "/x", none⟩
    let relayed := responseFields headers (Origin.ofRequest target inbound true)
    RequestTarget.parse? "/x" = some target ∧
      relayed.values .location = [.ofPlain "https://todo.example:8443/x?q='v'#top"] ∧
      relayed.values .setCookie = [.ofPlain "a=1", .ofPlain "b=2"] := by
  intro inbound headers target relayed
  have hread : RequestTarget.parse? "/x" = some target := by decide +kernel
  obtain ⟨-, -, -, hcookies, -, hredirect⟩ := responseFields_relays hread inbound true headers
  obtain ⟨value, hvalue, hplain, -⟩ :=
    hredirect (.ofPlain "http://frontend:5000/x?q='v'#top") [.ofPlain "/y"] (by decide +kernel)
  have hshown := hplain "http://frontend:5000/x?q='v'#top" (by decide +kernel)
  have hwritten : FieldValue.ofString? (relocate "http://frontend:5000/x?q='v'#top"
      (Origin.ofRequest target inbound true)) =
        some (.ofPlain "https://todo.example:8443/x?q='v'#top") := by decide +kernel
  cases hshown.symm.trans hwritten
  exact ⟨hread, hvalue, hcookies.trans (by decide +kernel)⟩

end Gatehouse.Relay
