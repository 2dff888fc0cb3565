import Gatehouse.Proofs.Http.AbsoluteTarget
import Gatehouse.Proofs.Http.PlainText
import Gatehouse.Proofs.Url.Printed
import Mathlib.Data.List.Basic
import Mathlib.Data.List.TakeWhile

/-!
# Parts of a request target

The authority of a parsed `http` URL is also one of a request target, unless its host is named with one of
the four marks that a domain may hold and a target may not. Path and query of a target are read back as
they are, behind whatever path they are put.
-/

namespace Gatehouse.Http.RequestTarget

/-! ## Reading an authority -/

/-- A character of an authority that sets none of its parts apart. -/
def isOrdinary (c : Char) : Bool :=
  isAuthorityChar c && !(c = ':' || c = '@' || c = '[' || c = ']')

theorem next_of_isOrdinary {c : Char} (hc : isOrdinary c = true) (scan : AuthorityScan) :
    scan.next c = some scan := by
  simp only [isOrdinary, Bool.and_eq_true, Bool.not_eq_true', Bool.or_eq_false_iff,
    decide_eq_false_iff_not] at hc
  obtain ⟨hchar, ⟨⟨hcolon, hat⟩, hopen⟩, hclose⟩ := hc
  have hpercent : c ≠ '%' := by
    rintro rfl
    cases hchar
  rw [AuthorityScan.next, if_neg hcolon, if_neg hopen, if_neg hclose, if_neg hat, if_neg hpercent,
    if_pos hchar]

/-- Up to eight colons are counted, and a percent sign is noticed. -/
theorem scan_of_counted {cs : List Char}
    (hcs : ∀ c ∈ cs, c = ':' ∨ c = '%' ∨ isOrdinary c = true) (scan : AuthorityScan)
    (hcolons : scan.colons + cs.count ':' ≤ 8) :
    cs.foldlM AuthorityScan.next scan =
      some { scan with
        colons := scan.colons + cs.count ':'
        percent := scan.percent || cs.contains '%' } := by
  induction cs generalizing scan with
  | nil => simp
  | cons c cs ih =>
      obtain ⟨hc, hrest⟩ := List.forall_mem_cons.1 hcs
      rw [List.foldlM_cons]
      rcases hc with rfl | rfl | hc
      · rw [List.count_cons_self] at hcolons ⊢
        have hnext : scan.next ':' = some { scan with colons := scan.colons + 1 } := by
          rw [AuthorityScan.next, if_pos rfl, if_neg (by omega)]
        rw [hnext, Option.bind_eq_bind, Option.bind_some, ih hrest _ (by dsimp only; omega)]
        simp [Nat.add_comm, Nat.add_left_comm]
      · have hnext : scan.next '%' = some { scan with percent := true } := rfl
        rw [List.count_cons_of_ne (by decide)] at hcolons ⊢
        rw [hnext, Option.bind_eq_bind, Option.bind_some, ih hrest { scan with percent := true } hcolons]
        simp
      · have hcolon : c ≠ ':' := by
          rintro rfl
          cases hc
        have hpercent : c ≠ '%' := by
          rintro rfl
          cases hc
        rw [List.count_cons_of_ne hcolon] at hcolons ⊢
        rw [next_of_isOrdinary hc, Option.bind_eq_bind, Option.bind_some, ih hrest scan hcolons]
        simp [Ne.symm hpercent]

/-! ## Parts of a URL in an authority -/

/-- What a host may be named with, though no authority of a target holds it. -/
def hostMarks : List Char := ['"', '\x60', '\x7b', '\x7d']

theorem next_of_mem_hostMarks {c : Char} (hc : c ∈ hostMarks) (scan : AuthorityScan) :
    scan.next c = none := by
  simp only [hostMarks, List.mem_cons, List.not_mem_nil, or_false] at hc
  rcases hc with rfl | rfl | rfl | rfl <;> rfl

theorem mem_hostMarks_or_isOrdinary {c : Char} (hc : Url.isNameChar c = true) :
    c ∈ hostMarks ∨ isOrdinary c = true := by
  have hkind : Url.isNameChar c = true → c ∈ hostMarks ∨ isOrdinary c = true :=
    Text.of_forall_ofNat (Url.isNameChar_iff.1 hc).1 (by decide)
  exact hkind hc

theorem isOrdinary_of_isPrintedDigit {c : Char} (hc : Url.IsPrintedDigit c) : isOrdinary c = true := by
  have hdigits : ∀ d < 16, isOrdinary (Nat.digitChar d) = true := by decide
  obtain ⟨d, hd, rfl⟩ := hc
  exact hdigits d hd

/-- A text of ordinary characters changes nothing. -/
theorem scan_of_isOrdinary {cs : List Char} (hcs : ∀ c ∈ cs, isOrdinary c = true)
    (scan : AuthorityScan) (hcolons : scan.colons ≤ 8) :
    cs.foldlM AuthorityScan.next scan = some scan := by
  have hcount : cs.count ':' = 0 := List.count_eq_zero.2 fun hc => absurd (hcs _ hc) (by decide)
  have hpercent : cs.contains '%' = false := by
    rw [Bool.eq_false_iff]
    intro hc
    exact absurd (hcs _ (List.contains_iff_mem.1 hc)) (by decide)
  rw [scan_of_counted (fun c hc => .inr (.inr (hcs c hc))) scan (by omega), hcount, hpercent,
    Bool.or_false, Nat.add_zero]

/-- A host without marks leaves nothing behind but the brackets of an address. -/
theorem scan_host {cs : List Char} (hprinted : Url.Host.Printed cs)
    (hplain : ∀ c ∈ cs, c ∉ hostMarks) :
    ∃ bracketed, cs.foldlM AuthorityScan.next {} = some { opened := bracketed, closed := bracketed } := by
  cases hprinted with
  | name hsome hchars =>
      have hordinary : ∀ c ∈ cs, isOrdinary c = true := fun c hc =>
        (mem_hostMarks_or_isOrdinary (hchars c hc)).resolve_left (hplain c hc)
      exact ⟨false, scan_of_isOrdinary hordinary {} (Nat.zero_le _)⟩
  | @address inner hinner hcount =>
      have hcounted : ∀ c ∈ inner, c = ':' ∨ c = '%' ∨ isOrdinary c = true := fun c hc =>
        (hinner c hc).imp_right fun hdigit => .inr (isOrdinary_of_isPrintedDigit hdigit)
      have hopened : AuthorityScan.next {} '[' = some { opened := true } := rfl
      refine ⟨true, ?_⟩
      rw [List.foldlM_cons, hopened, Option.bind_eq_bind, Option.bind_some, List.foldlM_append,
        scan_of_counted hcounted { opened := true } (by dsimp only; omega)]
      rfl

theorem at_not_mem_host {cs : List Char} (hprinted : Url.Host.Printed cs) : '@' ∉ cs := by
  intro hat
  cases hprinted with
  | name hsome hchars => exact absurd (hchars _ hat) (by decide)
  | address hinner hcount =>
      simp only [List.mem_cons, List.mem_append, List.not_mem_nil, or_false] at hat
      rcases hat with hat | hat | hat
      · exact absurd hat (by decide)
      · rcases hinner _ hat with hcolon | hdigit
        · exact absurd hcolon (by decide)
        · exact absurd (isOrdinary_of_isPrintedDigit hdigit) (by decide)
      · exact absurd hat (by decide)

/-- What is left as it is in a path is in ASCII. -/
theorem toNat_lt_of_inPathSet {c : Char} (hkept : Url.inPathSet c = false) : c.toNat < 0x7F := by
  simp only [Url.inPathSet, Url.inFragmentSet, Url.isControl, Bool.or_eq_false_iff,
    decide_eq_false_iff_not] at hkept
  omega

/-- User names and passwords are written with ordinary characters and percent signs. -/
theorem mem_encoded_userinfo (part : List Char) : ∀ c ∈ Url.percentEncode Url.inUserinfoSet part,
    c = '%' ∨ isOrdinary c = true := by
  have hkept (c : Char) (hc : Url.inUserinfoSet c = false) : c = '%' ∨ isOrdinary c = true := by
    have hpath : Url.inPathSet c = false := by
      simp only [Url.inUserinfoSet, Bool.or_eq_false_iff] at hc
      simp only [hc]
    have hkind : Url.inUserinfoSet c = false → c = '%' ∨ isOrdinary c = true :=
      Text.of_forall_ofNat (toNat_lt_of_inPathSet hpath) (by decide +kernel)
    exact hkind hc
  exact Url.forall_mem_percentEncode (.inl rfl) (by decide) hkept part

theorem count_colon_encoded_userinfo (part : List Char) :
    (Url.percentEncode Url.inUserinfoSet part).count ':' = 0 := by
  refine List.count_eq_zero.2 fun hc => ?_
  rcases mem_encoded_userinfo part _ hc with hmark | hordinary
  · exact absurd hmark (by decide)
  · exact absurd hordinary (by decide)

/-- Behind its at sign nothing is left of user information. -/
theorem scan_credentials {cs : List Char} (hprinted : Url.PrintedCredentials cs) :
    cs.foldlM AuthorityScan.next {} = some {} := by
  have hencoded (part : List Char) : ∀ c ∈ Url.percentEncode Url.inUserinfoSet part,
      c = ':' ∨ c = '%' ∨ isOrdinary c = true := fun c hc => .inr (mem_encoded_userinfo part c hc)
  cases hprinted with
  | none => rfl
  | user name =>
      have hcount := count_colon_encoded_userinfo name
      rw [List.foldlM_append, scan_of_counted (hencoded name) _ (by rw [hcount]; decide)]
      rfl
  | secret name secret =>
      have hcount : (Url.percentEncode Url.inUserinfoSet name ++
          ':' :: Url.percentEncode Url.inUserinfoSet secret).count ':' = 1 := by
        rw [List.count_append, List.count_cons_self, count_colon_encoded_userinfo,
          count_colon_encoded_userinfo]
      have hchars : ∀ c ∈ Url.percentEncode Url.inUserinfoSet name ++
          ':' :: Url.percentEncode Url.inUserinfoSet secret,
          c = ':' ∨ c = '%' ∨ isOrdinary c = true := by
        intro c hc
        rcases List.mem_append.1 hc with hc | hc
        · exact hencoded name c hc
        · exact (List.mem_cons.1 hc).elim .inl (hencoded secret c)
      rw [List.foldlM_append, scan_of_counted hchars _ (by rw [hcount]; decide)]
      rfl

/-- A port leaves one colon behind, or none. -/
theorem scan_port {cs : List Char} (hprinted : Url.PrintedPort cs) (scan : AuthorityScan)
    (hnone : scan.colons = 0) :
    ∃ colons, colons ≤ 1 ∧ cs.foldlM AuthorityScan.next scan = some { scan with colons } := by
  cases hprinted with
  | none => exact ⟨0, Nat.zero_le _, by rw [← hnone]; rfl⟩
  | number hdigits =>
      have hcolon : scan.next ':' = some { scan with colons := 1 } := by
        rw [AuthorityScan.next, if_pos rfl, hnone]
        rfl
      refine ⟨1, Nat.le_refl _, ?_⟩
      rw [List.foldlM_cons, hcolon, Option.bind_eq_bind, Option.bind_some]
      exact scan_of_isOrdinary (fun c hc => isOrdinary_of_isPrintedDigit (hdigits c hc))
        { scan with colons := 1 } (Nat.le_add_left 1 7)

theorem at_not_mem_port {cs : List Char} (hprinted : Url.PrintedPort cs) : '@' ∉ cs := by
  intro hat
  cases hprinted with
  | none => cases hat
  | number hdigits =>
      rcases List.mem_cons.1 hat with hcolon | hdigit
      · exact absurd hcolon (by decide)
      · exact absurd (isOrdinary_of_isPrintedDigit (hdigits _ hdigit)) (by decide)

/-- An authority ends with its host and port, and so with no at sign. -/
theorem getLast?_ne_at {host port : List Char} (hhost : Url.Host.Printed host)
    (hport : Url.PrintedPort port) (credentials : List Char) :
    (credentials ++ (host ++ port)).getLast? ≠ some '@' := by
  intro hlast
  have hsome : host ++ port ≠ [] := fun hempty => hhost.ne_nil (List.append_eq_nil_iff.1 hempty).1
  rw [List.getLast?_append_of_ne_nil _ hsome] at hlast
  rcases List.mem_append.1 (List.mem_of_getLast? hlast) with hat | hat
  · exact at_not_mem_host hhost hat
  · exact at_not_mem_port hport hat

/-- The host of a URL is named without marks. -/
def HasPlainHost (url : Url) : Prop :=
  ∀ host, url.host = some host → ∀ c ∈ host.text.toList, c ∉ hostMarks

/-- The authority of a parsed `http` URL is one of a target, unless there is a mark in its host. -/
theorem isAuthority_authority_iff {s : String} {url : Url} (hparse : Url.parse s = .ok url)
    (hhttp : url.scheme = "http") : isAuthority url.authority.toList = true ↔ HasPlainHost url := by
  obtain ⟨credentials, host, port, htext, hcredentials, hhost, hport, hnamed⟩ :=
    Url.exists_authority_eq hparse hhttp
  have hscan : url.authority.toList.foldlM AuthorityScan.next {} =
      (host.text.toList.foldlM AuthorityScan.next {}).bind fun scan =>
        port.foldlM AuthorityScan.next scan := by
    rw [htext, List.foldlM_append, scan_credentials hcredentials, Option.bind_eq_bind, Option.bind_some,
      List.foldlM_append]
    rfl
  -- User information and port never stand in the way, so that the scan of the host decides.
  by_cases hplain : ∀ c ∈ host.text.toList, c ∉ hostMarks
  · have hall : HasPlainHost url := by
      intro other hother
      cases hnamed.symm.trans hother
      exact hplain
    have hlast : url.authority.toList.getLast? ≠ some '@' := by
      rw [htext]
      exact getLast?_ne_at hhost hport credentials
    obtain ⟨bracketed, hhostScan⟩ := scan_host hhost hplain
    obtain ⟨colons, hfew, hportScan⟩ := scan_port hport
      { opened := bracketed, closed := bracketed } rfl
    refine iff_of_true ?_ hall
    rw [isAuthority, hscan, hhostScan, Option.bind_some, hportScan]
    simp [hfew, hlast]
  · have hmarked : ∃ c ∈ host.text.toList, c ∈ hostMarks := by
      simpa only [not_forall, not_not, exists_prop] using hplain
    obtain ⟨c, hc, hmark⟩ := hmarked
    refine iff_of_false ?_ fun hall => hall host hnamed c hc hmark
    rw [isAuthority, hscan, scan_eq_none_of_mem hc (next_of_mem_hostMarks hmark)]
    exact Bool.false_ne_true

/-! ## Paths and queries -/

theorem ne_of_isPathChar {c : Char} (hc : isPathChar c = true) : c ≠ '?' ∧ c ≠ '#' := by
  constructor
  · rintro rfl
    cases hc
  · rintro rfl
    cases hc

theorem ne_of_isQueryChar {c : Char} (hc : isQueryChar c = true) : c ≠ '#' := by
  rintro rfl
  cases hc

theorem isPathChar_of_mem_percentEncode (segment : List Char) :
    ∀ c ∈ Url.percentEncode Url.inPathSet segment, isPathChar c = true := by
  refine Url.forall_mem_percentEncode (by decide) (by decide) (fun c hkept => ?_) segment
  have hkind : Url.inPathSet c = false → isPathChar c = true :=
    Text.of_forall_ofNat (toNat_lt_of_inPathSet hkept) (by decide)
  exact hkind hkept

/-- The path of a parsed `http` URL may stand in a target. -/
theorem isPathChar_of_mem_path {s : String} {url : Url} (hparse : Url.parse s = .ok url)
    (hhttp : url.scheme = "http") {c : Char} (hc : c ∈ url.path.toList) : isPathChar c = true := by
  rcases Url.mem_path_of_parse hparse hhttp hc with rfl | ⟨segment, hc⟩
  · decide
  · exact isPathChar_of_mem_percentEncode segment c hc

/-- A path and a query of the characters that a target may have in them. -/
structure WellWritten (path : String) (query : Option String) : Prop where
  path : ∀ c ∈ path.toList, isPathChar c = true
  query : ∀ asked, query = some asked → ∀ c ∈ asked.toList, isQueryChar c = true

theorem wellWritten_of_pathAndQuery? {cs : List Char} {path : String} {query : Option String}
    (hread : pathAndQuery? cs = some (path, query)) : WellWritten path query := by
  unfold pathAndQuery? at hread
  dsimp only at hread
  split at hread
  · next hpath =>
      have hshown (written : List Char) (hall : written.all isPathChar = true) :
          ∀ c ∈ (if written = [] then "/" else String.ofList written).toList, isPathChar c = true := by
        split
        · exact List.all_eq_true.1 (by decide)
        · rw [String.toList_ofList]
          exact List.all_eq_true.1 hall
      split at hread
      · cases hread
        exact ⟨hshown _ hpath, nofun⟩
      · split at hread
        · next hquery =>
            cases hread
            refine ⟨hshown _ hpath, ?_⟩
            rintro _ ⟨⟩
            rw [String.toList_ofList]
            exact List.all_eq_true.1 hquery
        · cases hread
  · cases hread

/-- So are the path and the query of every target. -/
theorem wellWritten_of_parse? {written : String} {target : RequestTarget}
    (hread : parse? written = some target) : WellWritten target.path target.query := by
  unfold parse? at hread
  dsimp only at hread
  split at hread
  · cases hread
  · split at hread
    · cases hread
      exact ⟨List.all_eq_true.1 (by decide), nofun⟩
    · split at hread
      · cases hread
      · obtain ⟨⟨path, query⟩, hparts, rfl⟩ := Option.map_eq_some_iff.1 hread
        exact wellWritten_of_pathAndQuery? hparts
      · split at hread
        · split at hread
          · obtain ⟨⟨path, query⟩, hparts, rfl⟩ := Option.map_eq_some_iff.1 hread
            exact wellWritten_of_pathAndQuery? hparts
          · cases hread
        · split at hread
          · cases hread
            exact ⟨nofun, nofun⟩
          · cases hread

/-- A path and a query that are well written are read back as they are. -/
theorem WellWritten.pathAndQuery?_eq {path : String} {query : Option String}
    (hwritten : WellWritten path query) (hsome : path ≠ "") :
    pathAndQuery? (path ++ query.elim "" ("?" ++ ·)).toList = some (path, query) := by
  have hmarks (c : Char) (hc : c ∈ path.toList) : c ≠ '?' ∧ c ≠ '#' :=
    ne_of_isPathChar (hwritten.path c hc)
  have hnumber : ∀ c ∈ path.toList ++ (query.elim "" ("?" ++ ·)).toList, decide (c ≠ '#') = true := by
    intro c hc
    refine decide_eq_true ?_
    rcases List.mem_append.1 hc with hc | hc
    · exact (hmarks c hc).2
    · cases query with
      | none => cases hc
      | some asked =>
          rcases List.mem_cons.1 (show c ∈ '?' :: asked.toList by simpa using hc) with rfl | hc
          · decide
          · exact ne_of_isQueryChar (hwritten.query asked rfl c hc)
  have hquestion : ∀ c ∈ path.toList, decide (c ≠ '?') = true := fun c hc =>
    decide_eq_true (hmarks c hc).1
  have hall : path.toList.all isPathChar = true := List.all_eq_true.2 hwritten.path
  have hshown : path.toList ≠ [] := fun hnil => hsome (String.toList_eq_nil_iff.1 hnil)
  rw [String.toList_append, pathAndQuery?, List.takeWhile_eq_self_iff.2 hnumber,
    List.takeWhile_append_of_pos hquestion, List.dropWhile_append_of_pos hquestion]
  cases query with
  | none =>
      change (if (path.toList ++ []).all isPathChar then _ else _) = _
      rw [List.append_nil, if_pos hall]
      simp [hshown]
  | some asked =>
      have hquery : asked.toList.all isQueryChar = true :=
        List.all_eq_true.2 (hwritten.query asked rfl)
      have htail : (("?" ++ asked : String)).toList = '?' :: asked.toList := by simp
      rw [Option.elim_some, htail, List.takeWhile_cons_of_neg (by decide), List.append_nil, if_pos hall,
        List.dropWhile_cons_of_neg (by decide)]
      simp [hshown, hquery]

/-- A path with a leading slash and a query are a target of themselves, if they are short enough. -/
theorem WellWritten.parse?_eq {path start : String} {query : Option String}
    (hwritten : WellWritten path query) (hpath : path = "/" ++ start)
    (hshort : ¬maxLength < (path ++ query.elim "" ("?" ++ ·)).utf8ByteSize) :
    parse? (path ++ query.elim "" ("?" ++ ·)) = some ⟨none, none, path, query⟩ := by
  have hsome : path ≠ "" := by
    rw [hpath]
    exact fun hempty => absurd (congrArg String.toList hempty) (by simp)
  have hparts := hwritten.pathAndQuery?_eq hsome
  obtain ⟨rest, hrest⟩ : ∃ rest, (path ++ query.elim "" ("?" ++ ·)).toList = '/' :: rest := by
    rw [hpath]
    exact ⟨start.toList ++ (query.elim "" ("?" ++ ·)).toList, by simp⟩
  have hstar : path ++ query.elim "" ("?" ++ ·) ≠ "*" := by
    intro h
    rw [h] at hrest
    cases hrest
  rw [hrest] at hparts
  rw [parse?, if_neg hshort, if_neg hstar, hrest]
  dsimp only
  rw [hparts]
  rfl

/-- A text that is too long is no target. -/
theorem parse?_of_long {written : String} (hlong : maxLength < written.utf8ByteSize) :
    parse? written = none := if_pos hlong

end Gatehouse.Http.RequestTarget
