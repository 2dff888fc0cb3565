import Gatehouse.Proofs.Url.Authority

/-!
# What a parsed URL is written with

The host of a parsed `http` URL is a name in ASCII, of characters that a domain may hold, or an IPv6
address in brackets with no more than eight colons. Its path has slashes and what percent encoding leaves
or writes.
-/

namespace Gatehouse.Url

/-! ## Names -/

/-- A character that may stand in the name of a host once it is prepared. -/
def isNameChar (c : Char) : Bool := c.toNat < 0x80 && !isForbidden c

theorem isNameChar_iff {c : Char} : isNameChar c = true ↔ c.toNat < 0x80 ∧ isForbidden c = false := by
  simp [isNameChar]

theorem isNameChar_of_mem_encode {label : List Char} (hlabel : Permitted label) {c : Char}
    (hc : c ∈ Punycode.encode label) : isNameChar c = true := by
  have hdigits : ∀ d < 36, isNameChar (Punycode.digit d) = true := by decide
  rcases Punycode.mem_encode hc with ⟨hmem, hsmall⟩ | rfl | ⟨d, hd, rfl⟩
  · exact isNameChar_iff.2 ⟨hsmall, hlabel c hmem⟩
  · decide
  · exact hdigits d hd

/-- A label is written in ASCII: it is so as it stands, or it is encoded. -/
theorem isNameChar_of_ofPrepared? {label : List Char} {read : Label}
    (hread : Label.ofPrepared? label = some read) {c : Char} (hc : c ∈ read.written) :
    isNameChar c = true := by
  have hmark : ['x', 'n', '-', '-'].all isNameChar = true := by decide
  have hpermitted := (permitted_of_ofPrepared? hread).2 c hc
  obtain ⟨horder, ⟨hwritten, -, hascii⟩ | ⟨hwritten, -⟩⟩ := cases_of_ofPrepared? hread
  · exact isNameChar_iff.2 ⟨hascii c (hwritten ▸ hc), hpermitted⟩
  · rw [hwritten] at hc
    rcases List.mem_append.1 hc with hc | hc
    · exact List.all_eq_true.1 hmark c hc
    · exact isNameChar_of_mem_encode (permitted_of_labelInOrder horder) hc

theorem isNameChar_of_domainToAscii? {domain written : List Char}
    (hwritten : domainToAscii? domain = some written) {c : Char} (hc : c ∈ written) :
    isNameChar c = true := by
  obtain ⟨labels, hlabels, rfl⟩ := exists_of_domainToAscii? hwritten
  rcases mem_intercalate hc with hc | ⟨part, hpart, hc⟩
  · rw [List.mem_singleton.1 hc]
    decide
  · obtain ⟨label, hlabel, rfl⟩ := List.mem_map.1 hpart
    obtain ⟨source, -, hsource⟩ := exists_of_mem_mapM hlabels hlabel
    exact isNameChar_of_ofPrepared? hsource hc

/-! ## Addresses -/

/-- A hexadecimal digit as it is printed. -/
def IsPrintedDigit (c : Char) : Prop := ∃ d, d < 16 ∧ c = Nat.digitChar d

theorem isPrintedDigit_of_mem_toDigits {b : Nat} (hb : 1 < b) (hsmall : b ≤ 16) {n : Nat} {c : Char}
    (hc : c ∈ Nat.toDigits b n) : IsPrintedDigit c := by
  obtain ⟨d, hd, rfl⟩ := exists_digitChar_of_mem_toDigits hb hc
  exact ⟨d, by omega, rfl⟩

theorem IsPrintedDigit.isNameChar {c : Char} (hc : IsPrintedDigit c) : isNameChar c = true := by
  have hdigits : ∀ d < 16, Url.isNameChar (Nat.digitChar d) = true := by decide
  obtain ⟨d, hd, rfl⟩ := hc
  exact hdigits d hd

theorem IsPrintedDigit.ne_colon {c : Char} (hc : IsPrintedDigit c) : c ≠ ':' := by
  rintro rfl
  cases hc.isNameChar

theorem mem_printPieces {pieces : List Nat} {c : Char} (hc : c ∈ printPieces pieces) :
    c = ':' ∨ IsPrintedDigit c := by
  rcases mem_intercalate hc with hc | ⟨part, hpart, hc⟩
  · exact .inl (List.mem_singleton.1 hc)
  · obtain ⟨n, -, rfl⟩ := List.mem_map.1 hpart
    exact .inr (isPrintedDigit_of_mem_toDigits (by decide) (by decide) hc)

/-- There are fewer colons than pieces, or none at all. -/
theorem count_colon_printPieces_le (pieces : List Nat) :
    (printPieces pieces).count ':' ≤ pieces.length := by
  have hpart (n : Nat) : (Nat.toDigits 16 n).count ':' = 0 :=
    List.count_eq_zero.2 fun hc =>
      (isPrintedDigit_of_mem_toDigits (by decide) (by decide) hc).ne_colon rfl
  unfold printPieces
  induction pieces with
  | nil => exact Nat.le_refl 0
  | cons n pieces ih =>
      cases pieces with
      | nil =>
          have hsingle : List.intercalate [':'] ([n].map (Nat.toDigits 16)) = Nat.toDigits 16 n := by
            simp
          rw [hsingle, hpart]
          exact Nat.zero_le _
      | cons next pieces =>
          rw [List.map_cons] at ih ⊢
          rw [List.map_cons, List.intercalate_cons_cons, List.count_append, List.count_append, hpart,
            List.length_cons]
          have hsep : [':'].count ':' = 1 := by decide
          omega

/-- The run of zeros that is left out lies within the pieces. -/
theorem longestZeroRun_le (pieces : List Nat) :
    (longestZeroRun pieces).1 + (longestZeroRun pieces).2 ≤ pieces.length := by
  unfold longestZeroRun
  have hstep (starts : List Nat) (best : Nat × Nat) (hbest : best.1 + best.2 ≤ pieces.length)
      (hstarts : ∀ i ∈ starts, i ≤ pieces.length) :
      let last := starts.foldl (fun best i =>
        if best.2 < zeroRun (pieces.drop i) then (i, zeroRun (pieces.drop i)) else best) best
      last.1 + last.2 ≤ pieces.length := by
    induction starts generalizing best with
    | nil => exact hbest
    | cons i starts ih =>
        obtain ⟨hi, hrest⟩ := List.forall_mem_cons.1 hstarts
        refine ih _ ?_ hrest
        dsimp only
        split
        · have hrun : zeroRun (pieces.drop i) ≤ (pieces.drop i).length :=
            (List.takeWhile_sublist _).length_le
          rw [List.length_drop] at hrun
          omega
        · exact hbest
  exact hstep _ (0, 0) (Nat.zero_le _) fun i hi => Nat.le_of_lt (List.mem_range.1 hi)

theorem mem_printIpv6 {pieces : List Nat} {c : Char} (hc : c ∈ printIpv6 pieces) :
    c = ':' ∨ IsPrintedDigit c := by
  unfold printIpv6 at hc
  dsimp only at hc
  split at hc
  · exact mem_printPieces hc
  · rcases List.mem_append.1 hc with hc | hc
    · rcases List.mem_append.1 hc with hc | hc
      · exact mem_printPieces hc
      · simp only [List.mem_cons, List.not_mem_nil, or_false, or_self] at hc
        exact .inl hc
    · exact mem_printPieces hc

/-- The two colons for a run of zeros stand for two pieces at least. -/
theorem count_colon_printIpv6_le (pieces : List Nat) :
    (printIpv6 pieces).count ':' ≤ pieces.length := by
  have hrun := longestZeroRun_le pieces
  unfold printIpv6
  dsimp only
  split
  · exact count_colon_printPieces_le pieces
  · have hbefore := count_colon_printPieces_le (pieces.take (longestZeroRun pieces).1)
    have hafter := count_colon_printPieces_le
      (pieces.drop ((longestZeroRun pieces).1 + (longestZeroRun pieces).2))
    have hmark : [':', ':'].count ':' = 2 := by decide
    rw [List.length_take] at hbefore
    rw [List.length_drop] at hafter
    rw [List.count_append, List.count_append]
    omega

theorem length_of_ipv6? {cs : List Char} {pieces : List Nat} (hread : ipv6? cs = some pieces) :
    pieces.length = 8 := by
  unfold ipv6? at hread
  dsimp only at hread
  split at hread
  · obtain ⟨left, -, hread⟩ := Option.bind_eq_some_iff.1 hread
    obtain ⟨right, -, hread⟩ := Option.bind_eq_some_iff.1 hread
    obtain ⟨hroom, hpieces⟩ := Option.ite_none_right_eq_some.1 hread
    cases hpieces
    rw [List.length_append, List.length_append, List.length_replicate]
    omega
  · obtain ⟨all, -, hread⟩ := Option.bind_eq_some_iff.1 hread
    obtain ⟨hlength, hpieces⟩ := Option.ite_none_right_eq_some.1 hread
    cases hpieces
    exact hlength

/-! ## Hosts -/

/-- How the text of a parsed host looks: a name, or an address in brackets. -/
inductive Host.Printed : List Char → Prop
  | name {cs : List Char} : cs ≠ [] → (∀ c ∈ cs, isNameChar c = true) → Host.Printed cs
  | address {inner : List Char} : (∀ c ∈ inner, c = ':' ∨ IsPrintedDigit c) →
      inner.count ':' ≤ 8 → Host.Printed ('[' :: (inner ++ [']']))

theorem Host.Printed.ne_nil {cs : List Char} (hprinted : Host.Printed cs) : cs ≠ [] := by
  cases hprinted with
  | name hsome _ => exact hsome
  | address _ _ => exact List.cons_ne_nil _ _

theorem Host.printed_ipv4 (n : Nat) : Host.Printed (Host.ipv4 n).text.toList := by
  have hdigits (m : Nat) : ∀ c ∈ Number.digits m, isNameChar c = true := fun c hc =>
    (isPrintedDigit_of_mem_toDigits (by decide) (by decide) hc).isNameChar
  have hdot : isNameChar '.' = true := by decide
  rw [Host.text, String.toList_ofList, printIpv4]
  refine .name (by simp) ?_
  simp only [List.mem_append, List.mem_cons, or_imp, forall_and, forall_eq]
  exact ⟨⟨⟨hdigits _, hdot, hdigits _⟩, hdot, hdigits _⟩, hdot, hdigits _⟩

/-- Every host that was parsed is printed as a name or as an address. -/
theorem Host.printed_of_parse {cs : List Char} {host : Host} (hread : Host.parse cs = .ok host) :
    Host.Printed host.text.toList := by
  unfold Host.parse at hread
  split at hread
  · unfold Host.ofBracketed at hread
    split at hread
    · split at hread
      · next pieces haddress =>
          cases hread
          rw [Host.text, String.toList_ofList]
          refine .address (fun c hc => mem_printIpv6 hc) ?_
          rw [← length_of_ipv6? haddress]
          exact count_colon_printIpv6_le pieces
      · cases hread
    · cases hread
  · split at hread
    · cases hread
    · split at hread
      · cases hread
      · next domain hdomain =>
          split at hread
          · cases hread
          · next hsome =>
              split at hread
              · split at hread
                · cases hread
                  exact Host.printed_ipv4 _
                · cases hread
              · cases hread
                rw [Host.text, String.toList_ofList]
                exact .name hsome fun c hc => isNameChar_of_domainToAscii? hdomain hc

/-! ## Authorities -/

/-- How user information looks in front of a host: encoded, and with an at sign behind it. -/
inductive PrintedCredentials : List Char → Prop
  | none : PrintedCredentials []
  | user (name : List Char) : PrintedCredentials (percentEncode inUserinfoSet name ++ ['@'])
  | secret (name secret : List Char) : PrintedCredentials
      (percentEncode inUserinfoSet name ++ ':' :: percentEncode inUserinfoSet secret ++ ['@'])

/-- How a port looks behind a host. -/
inductive PrintedPort : List Char → Prop
  | none : PrintedPort []
  | number {digits : List Char} : (∀ c ∈ digits, IsPrintedDigit c) → PrintedPort (':' :: digits)

theorem printedCredentials_of_userinfo {url : Url} {kind : SchemeKind} {cs rest : List Char}
    (hread : userinfo kind cs = .ok ((url.username, url.password), rest)) :
    PrintedCredentials url.credentials.toList := by
  obtain ⟨⟨name, hname⟩, hpassword⟩ := encoded_of_userinfo hread
  rw [credentials]
  by_cases hnobody : url.username = "" ∧ url.password = none
  · rw [if_pos hnobody]
    exact .none
  · rw [if_neg hnobody, String.toList_append, String.toList_append, hname]
    cases hsecret : url.password with
    | none =>
        rw [String.toList_empty, List.append_nil]
        exact .user name
    | some secret =>
        obtain ⟨part, hpart⟩ := hpassword secret hsecret
        rw [String.toList_append, hpart]
        exact .secret name part

/-- The authority of an `http` URL is user information, a host and a port, each as it is printed. -/
theorem exists_authority_eq {s : String} {url : Url} (hparse : Url.parse s = .ok url)
    (hhttp : url.scheme = "http") :
    ∃ credentials host port, url.authority.toList = credentials ++ (host.text.toList ++ port) ∧
      PrintedCredentials credentials ∧ Host.Printed host.text.toList ∧ PrintedPort port ∧
      url.host = some host := by
  obtain ⟨cs, hread⟩ := exists_ofAuthority_of_parse hparse hhttp
  obtain ⟨username, password, rest, host, port, after, huser, -, hhost, -, hurl⟩ :=
    ofAuthority_special_eq_ok_iff.1 hread
  have hcredentials : PrintedCredentials url.credentials.toList := by
    apply printedCredentials_of_userinfo
    rw [hurl]
    exact huser
  have hprinted := Host.printed_of_parse hhost
  have hnamed : url.host = some host := by rw [hurl]
  have hport : url.port = port := by rw [hurl]
  cases port with
  | none =>
      refine ⟨_, host, [], ?_, hcredentials, hprinted, .none, hnamed⟩
      simp [authority, hnamed, hport]
  | some port =>
      have hdigits : ∀ c ∈ Number.digits port, IsPrintedDigit c := fun c hc =>
        isPrintedDigit_of_mem_toDigits (by decide) (by decide) hc
      refine ⟨_, host, _, ?_, hcredentials, hprinted, .number hdigits, hnamed⟩
      simp [authority, hnamed, hport]

/-! ## Paths -/

/-- What holds of the empty segment, of those kept so far and of those to come holds of all that are
kept in the end. -/
theorem forall_mem_resolveSegments {P : List Char → Prop} (hempty : P []) {kept segments : List (List Char)}
    (hkept : ∀ segment ∈ kept, P segment) (hsegments : ∀ segment ∈ segments, P segment) :
    ∀ segment ∈ resolveSegments kept segments, P segment := by
  have hfewer (kept : List (List Char)) (hkept : ∀ segment ∈ kept, P segment) :
      ∀ segment ∈ kept.drop 1, P segment :=
    fun segment hsegment => hkept segment (List.mem_of_mem_drop hsegment)
  have hreversed {all : List (List Char)} (hall : ∀ segment ∈ all, P segment) :
      ∀ segment ∈ all.reverse, P segment :=
    fun segment hsegment => hall segment (List.mem_reverse.1 hsegment)
  -- A last segment of dots leaves an empty one behind, any other segment of dots leaves none.
  fun_induction resolveSegments kept segments with
  | case1 kept => exact hreversed hkept
  | case2 kept last hdouble => exact hreversed (List.forall_mem_cons.2 ⟨hempty, hfewer kept hkept⟩)
  | case3 kept last hdouble hsingle => exact hreversed (List.forall_mem_cons.2 ⟨hempty, hkept⟩)
  | case4 kept last hdouble hsingle =>
      exact hreversed (List.forall_mem_cons.2 ⟨hsegments last List.mem_cons_self, hkept⟩)
  | case5 kept first rest hmore hdouble ih =>
      exact ih (hfewer kept hkept) (List.forall_mem_cons.1 hsegments).2
  | case6 kept first rest hmore hdouble hsingle ih =>
      exact ih hkept (List.forall_mem_cons.1 hsegments).2
  | case7 kept first rest hmore hdouble hsingle ih =>
      obtain ⟨hfirst, hrest⟩ := List.forall_mem_cons.1 hsegments
      exact ih (List.forall_mem_cons.2 ⟨hfirst, hkept⟩) hrest

theorem mem_normalPath {kind : SchemeKind} {cs : List Char} {c : Char} (hc : c ∈ normalPath kind cs) :
    c = '/' ∨ ∃ segment, c ∈ percentEncode inPathSet segment := by
  unfold normalPath at hc
  rcases List.mem_cons.1 hc with hslash | hc
  · exact .inl hslash
  · rcases mem_intercalate hc with hslash | ⟨segment, hsegment, hc⟩
    · exact .inl (List.mem_singleton.1 hslash)
    · have hencoded : ∀ segment ∈ (splitSegments kind cs).map (percentEncode inPathSet),
          ∃ source, segment = percentEncode inPathSet source := by
        intro segment hsegment
        obtain ⟨source, -, rfl⟩ := List.mem_map.1 hsegment
        exact ⟨source, rfl⟩
      obtain ⟨source, rfl⟩ := forall_mem_resolveSegments ⟨[], rfl⟩ nofun hencoded segment hsegment
      exact .inr ⟨source, hc⟩

/-- The path of an `http` URL has slashes and encoded segments. -/
theorem mem_path_of_parse {s : String} {url : Url} (hparse : Url.parse s = .ok url)
    (hhttp : url.scheme = "http") {c : Char} (hc : c ∈ url.path.toList) :
    c = '/' ∨ ∃ segment, c ∈ percentEncode inPathSet segment := by
  obtain ⟨cs, hread⟩ := exists_ofAuthority_of_parse hparse hhttp
  obtain ⟨_, _, _, _, _, after, -, -, -, -, rfl⟩ := ofAuthority_special_eq_ok_iff.1 hread
  rw [String.toList_ofList, pathPart] at hc
  split at hc
  · exact .inl (List.mem_singleton.1 hc)
  · split at hc
    · exact mem_normalPath hc
    · exact mem_normalPath hc

end Gatehouse.Url
