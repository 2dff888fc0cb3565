import Gatehouse.Proofs.Text.Blank
import Gatehouse.Proofs.Url.Reading

/-!
# How a URL is laid out

Behind the scheme of an `http` or `https` URL and `://` stands its authority, and behind that the
path, the query and the fragment. A reader of URLs takes more slashes in front of the authority, too,
and skips them, as it skips tabs and line breaks anywhere.
-/

namespace Gatehouse.Url

/-! ## What is read of a text -/

/-- The end of a text as it is read: without the blanks behind it, and without tabs and line
breaks. -/
def cleanedEnd (tail : List Char) : List Char :=
  (Text.dropEndWhile (fun c => c.toNat ≤ 0x20) tail).filter fun c => c ≠ '\t' ∧ c ≠ '\n' ∧ c ≠ '\r'

/-- A visible character is none that is dropped. -/
theorem kept_of_visible {c : Char} (hc : 0x20 < c.toNat) :
    decide (c.toNat ≤ 0x20) = false ∧ decide (c ≠ '\t' ∧ c ≠ '\n' ∧ c ≠ '\r') = true := by
  refine ⟨decide_eq_false (Nat.not_le.2 hc), decide_eq_true ⟨?_, ?_, ?_⟩⟩
  all_goals
    rintro rfl
    exact absurd hc (by decide)

/-- Nothing is dropped from visible characters. -/
theorem cleanedEnd_visible_append {cs : List Char} (hcs : ∀ c ∈ cs, 0x20 < c.toNat)
    (tail : List Char) : cleanedEnd (cs ++ tail) = cs ++ cleanedEnd tail := by
  rw [cleanedEnd, Text.dropEndWhile_append fun c hc => (kept_of_visible (hcs c hc)).1,
    List.filter_append, List.filter_eq_self.2 fun c hc => (kept_of_visible (hcs c hc)).2]
  rfl

/-- In front of a visible character there is nothing to drop. -/
theorem cleaned_cons {c : Char} (hc : 0x20 < c.toNat) (cs : List Char) :
    cleaned (c :: cs) = cleanedEnd (c :: cs) := by
  have hkept := (kept_of_visible hc).1
  rw [cleaned, Text.stripWhile, List.dropWhile_cons_of_neg (by simp [hkept])]
  rfl

theorem visible_of_endsAuthority {c : Char} (hc : endsAuthority .special c = true) :
    0x20 < c.toNat := by
  rcases cases_of_endsAuthority hc with rfl | rfl | rfl | rfl <;> decide

theorem EndsAuthority.cleanedEnd {tail : List Char} (hends : EndsAuthority tail) :
    EndsAuthority (cleanedEnd tail) := by
  obtain ⟨c, rest, rfl, hc⟩ := hends
  have hvisible := visible_of_endsAuthority hc
  exact ⟨c, Url.cleanedEnd rest,
    cleanedEnd_visible_append (List.forall_mem_singleton.2 hvisible) rest, hc⟩

/-- What is dropped from the end of a text does not reach beyond a character that ends an
authority. -/
theorem cleanedEnd_append {cs tail : List Char} (hends : EndsAuthority tail) :
    cleanedEnd (cs ++ tail) = cs.filter (fun c => c ≠ '\t' ∧ c ≠ '\n' ∧ c ≠ '\r') ++ cleanedEnd tail := by
  obtain ⟨c, rest, rfl, hc⟩ := hends
  have hkept := (kept_of_visible (visible_of_endsAuthority hc)).1
  have hdrop := Text.dropEndWhile_append_cons (p := fun c => c.toNat ≤ 0x20) hkept [] rest
  rw [List.nil_append, List.nil_append] at hdrop
  rw [cleanedEnd, cleanedEnd, Text.dropEndWhile_append_cons hkept, hdrop, List.filter_append]

/-- A text is cut before the first character that may end an authority. -/
theorem cut_at_authority (cs : List Char) :
    ∃ inside tail, cs = inside ++ tail ∧ Inside inside ∧ (tail = [] ∨ EndsAuthority tail) ∧
      cs.dropWhile (fun c => !endsAuthority .special c) = tail := by
  refine ⟨cs.takeWhile fun c => !endsAuthority .special c, _,
    List.takeWhile_append_dropWhile.symm, fun c hc => ?_, ?_, rfl⟩
  · simpa using List.mem_takeWhile_imp hc
  · cases hrest : cs.dropWhile (fun c => !endsAuthority .special c) with
    | nil => exact .inl rfl
    | cons c rest =>
        have hfirst := List.head?_dropWhile_not (fun c => !endsAuthority .special c) cs
        rw [hrest] at hfirst
        exact .inr ⟨c, rest, rfl, by simpa using hfirst⟩

theorem dropWhile_inside_append {cs tail : List Char} (hinside : Inside cs)
    (htail : tail = [] ∨ EndsAuthority tail) :
    (cs ++ tail).dropWhile (fun c => !endsAuthority .special c) = tail := by
  rw [List.dropWhile_append_of_pos fun c hc => by simp [hinside c hc]]
  rcases htail with rfl | ⟨c, rest, rfl, hc⟩
  · rfl
  · exact List.dropWhile_cons_of_neg (by simp [hc])

/-- It makes no difference whether a text is cut before or after it is cleaned. -/
theorem cleanedEnd_dropWhile (cs : List Char) :
    cleanedEnd (cs.dropWhile fun c => !endsAuthority .special c) =
      (cleanedEnd cs).dropWhile fun c => !endsAuthority .special c := by
  obtain ⟨inside, tail, rfl, hinside, htail, hcut⟩ := cut_at_authority cs
  rw [hcut]
  rcases htail with rfl | hends
  · rw [List.append_nil]
    refine (List.dropWhile_eq_nil_iff.2 fun c hc => ?_).symm
    have hsource : c ∈ inside :=
      (Text.dropEndWhile_sublist _ _).subset (List.mem_filter.1 hc).1
    simp [hinside c hsource]
  · rw [cleanedEnd_append hends,
      dropWhile_inside_append (fun c hc => hinside c (List.mem_filter.1 hc).1) (.inr hends.cleanedEnd)]

/-! ## From the scheme on -/

theorem isAlpha_of_toLower {c : Char} (hc : c.toLower.isAlpha = true) : c.isAlpha = true := by
  unfold Char.toLower at hc
  split at hc
  · next hcapital =>
      have hupper : c.isUpper = true := decide_eq_true hcapital
      exact Bool.or_eq_true_iff.2 (.inl hupper)
  · exact hc

theorem visible_of_isAlpha {c : Char} (hc : c.isAlpha = true) : 0x20 < c.toNat := by
  rcases Bool.or_eq_true_iff.1 hc with hupper | hlower
  · have hrange : 'A'.val ≤ c.val ∧ c.val ≤ 'Z'.val := of_decide_eq_true hupper
    exact Nat.lt_of_lt_of_le (by decide) (UInt32.le_iff_toNat_le.1 hrange.1)
  · have hrange : 'a'.val ≤ c.val := of_decide_eq_true (Bool.and_eq_true_iff.1 hlower).1
    exact Nat.lt_of_lt_of_le (by decide) (UInt32.le_iff_toNat_le.1 hrange)

/-- The schemes of the web. -/
def webSchemes : List String := ["http", "https"]

section

variable {name : List Char} {scheme : String}

theorem isAlpha_of_scheme (hname : name.map Char.toLower = scheme.toList)
    (hscheme : scheme ∈ webSchemes) : ∀ c ∈ name, c.isAlpha = true := by
  have hletters : ∀ scheme ∈ webSchemes, scheme.toList.all Char.isAlpha = true := by decide
  intro c hc
  have hsmall : c.toLower ∈ scheme.toList := hname ▸ List.mem_map_of_mem hc
  exact isAlpha_of_toLower (List.all_eq_true.1 (hletters scheme hscheme) _ hsmall)

theorem exists_cons_of_scheme (hname : name.map Char.toLower = scheme.toList)
    (hscheme : scheme ∈ webSchemes) : ∃ first rest, name = first :: rest := by
  have hsome : ∀ scheme ∈ webSchemes, scheme.toList ≠ [] := by decide
  refine List.exists_cons_of_ne_nil ?_
  rintro rfl
  exact hsome scheme hscheme hname.symm

/-- Nothing is dropped from a scheme, in letters of any size, and the mark behind it. -/
theorem cleaned_of_scheme (hname : name.map Char.toLower = scheme.toList)
    (hscheme : scheme ∈ webSchemes) (after : List Char) :
    cleaned (name ++ ':' :: '/' :: '/' :: after) = name ++ ':' :: '/' :: '/' :: cleanedEnd after := by
  have halpha := isAlpha_of_scheme hname hscheme
  obtain ⟨first, rest, rfl⟩ := exists_cons_of_scheme hname hscheme
  have hmark : ([':', '/', '/'].all fun c => 0x20 < c.toNat) = true := by decide
  have hvisible : ∀ c ∈ first :: (rest ++ [':', '/', '/']), 0x20 < c.toNat := by
    intro c hc
    rw [← List.cons_append, List.mem_append] at hc
    rcases hc with hc | hc
    · exact visible_of_isAlpha (halpha c hc)
    · exact of_decide_eq_true (List.all_eq_true.1 hmark c hc)
  have hkept := cleanedEnd_visible_append hvisible after
  rw [List.cons_append, cleaned_cons (hvisible first List.mem_cons_self)]
  simpa using hkept

/-- A text with a scheme of the web and `://` is read from its authority on, past any more slashes. -/
theorem parse_of_scheme (hname : name.map Char.toLower = scheme.toList)
    (hscheme : scheme ∈ webSchemes) (after : List Char) :
    Url.parse (String.ofList (name ++ ':' :: '/' :: '/' :: after)) =
      ofAuthority scheme .special ((cleanedEnd after).dropWhile (isSlash .special)) := by
  have hkind : ∀ scheme ∈ webSchemes, SchemeKind.of scheme = .special := by decide
  have halpha := isAlpha_of_scheme hname hscheme
  have hchar : ∀ c ∈ name, isSchemeChar c = true := by
    intro c hc
    simp [isSchemeChar, Char.isAlphanum, halpha c hc]
  have hsplit (more : List Char) :
      splitScheme? (name ++ ':' :: more) = some (scheme.toList, more) := by
    obtain ⟨first, rest, rfl⟩ := exists_cons_of_scheme hname hscheme
    unfold splitScheme?
    rw [List.takeWhile_append_of_pos hchar, List.dropWhile_append_of_pos hchar,
      List.takeWhile_cons_of_neg (by decide), List.dropWhile_cons_of_neg (by decide), List.append_nil,
      ← hname]
    exact if_pos (halpha first List.mem_cons_self)
  rw [Url.parse, String.toList_ofList, cleaned_of_scheme hname hscheme, hsplit]
  dsimp only
  rw [String.ofList_toList, hkind scheme hscheme, List.dropWhile_cons_of_pos (by decide),
    List.dropWhile_cons_of_pos (by decide)]

end

theorem Unbroken.visible {cs : List Char} (hunbroken : Unbroken cs) {c : Char} (hc : c ∈ cs) :
    0x20 < c.toNat := by
  have hkept := hunbroken c hc
  rw [isUnbrokenChar, Bool.and_eq_true] at hkept
  exact of_decide_eq_true hkept.1

/-- An unbroken authority is read as it stands. -/
theorem parse_of_unbroken {scheme authority : String} (hscheme : scheme ∈ webSchemes)
    (hunbroken : Unbroken authority.toList) (hsome : authority ≠ "") (tail : String) :
    Url.parse (scheme ++ "://" ++ authority ++ tail) =
      ofAuthority scheme .special (authority.toList ++ cleanedEnd tail.toList) := by
  have hsmall : ∀ scheme ∈ webSchemes, scheme.toList.map Char.toLower = scheme.toList := by decide
  have hchars : scheme ++ "://" ++ authority ++ tail =
      String.ofList (scheme.toList ++ ':' :: '/' :: '/' :: (authority.toList ++ tail.toList)) :=
    String.toList_injective (by simp)
  have hcleaned := cleanedEnd_visible_append (fun c hc => hunbroken.visible hc) tail.toList
  obtain ⟨first, rest, hauthority⟩ :=
    List.exists_cons_of_ne_nil fun hnil => hsome (String.toList_eq_nil_iff.1 hnil)
  have hslash : isSlash .special first = false := by
    have hinside := hunbroken.inside first (hauthority ▸ List.mem_cons_self)
    simp only [endsAuthority, Bool.or_eq_false_iff] at hinside
    exact hinside.1.1
  rw [hchars, parse_of_scheme (hsmall scheme hscheme) hscheme, hcleaned, hauthority, List.cons_append,
    List.dropWhile_cons_of_neg (by simp [hslash])]

/-- An `http` URL that ends with its authority is read with anything behind a slash, too, and has a
host if it had one. -/
theorem exists_parse_append {authority : String} (hunbroken : Unbroken authority.toList)
    {url : Url} (hread : Url.parse ("http://" ++ authority) = .ok url) (rest : String) :
    ∃ longer, Url.parse ("http://" ++ authority ++ "/" ++ rest) = .ok longer ∧
      longer.scheme = "http" ∧ longer.hasHost = url.hasHost := by
  have hmark : "http://" = "http" ++ "://" := rfl
  have hweb : "http" ∈ webSchemes := List.mem_cons_self
  have hsome : authority ≠ "" := by
    rintro rfl
    have hempty : Url.parse ("http://" ++ "") = .error .emptyHost := by decide
    rw [hempty] at hread
    cases hread
  have hauthority : ofAuthority "http" .special authority.toList = .ok url := by
    have hempty := parse_of_unbroken hweb hunbroken hsome ""
    rw [String.append_empty, ← hmark, hread, String.toList_empty] at hempty
    rw [hempty]
    exact congrArg _ (List.append_nil _).symm
  have hends : EndsAuthority ("/" ++ rest).toList := ⟨'/', rest.toList, by simp, by decide⟩
  have hlonger := (ofAuthority_append_eq_ok_iff hunbroken.inside (.inr hends.cleanedEnd)).2
    ⟨url, hauthority, rfl⟩
  have hgroup : "http://" ++ authority ++ "/" ++ rest = "http://" ++ authority ++ ("/" ++ rest) :=
    String.append_assoc
  refine ⟨_, ?_, scheme_of_ofAuthority hlonger, rfl⟩
  rw [hgroup, hmark, parse_of_unbroken hweb hunbroken hsome]
  exact hlonger

/-! ## Layouts -/

/-- What stands behind a scheme and `://`: slashes that a reader skips, an authority, and the rest. -/
structure Layout where
  skipped : List Char
  authority : List Char
  rest : List Char
  isSlash_of_mem : ∀ c ∈ skipped, isSlash .special c = true
  inside : Inside authority
  authority_ne_nil : authority ≠ []
  rest_ends : rest = [] ∨ EndsAuthority rest

namespace Layout

def text (layout : Layout) : List Char := layout.skipped ++ (layout.authority ++ layout.rest)

/-- Everything that is read from an authority on, past any slashes, is laid out so. -/
theorem exists_of_read {scheme : String} {text : List Char} {url : Url}
    (hread : ofAuthority scheme .special (text.dropWhile (isSlash .special)) = .ok url) :
    ∃ layout : Layout, text = layout.text ∧
      ∃ short, ofAuthority scheme .special layout.authority = .ok short ∧
        url = short.withTail layout.rest := by
  obtain ⟨authority, rest, hcut, hinside, hends, -⟩ :=
    cut_at_authority (text.dropWhile (isSlash .special))
  rw [hcut] at hread
  obtain ⟨short, hshort, rfl⟩ := (ofAuthority_append_eq_ok_iff hinside hends).1 hread
  have hsome : authority ≠ [] := by
    rintro rfl
    cases hshort
  refine ⟨⟨text.takeWhile (isSlash .special), authority, rest,
    fun c hc => List.mem_takeWhile_imp hc, hinside, hsome, hends⟩, ?_, short, hshort, rfl⟩
  rw [Layout.text, ← hcut, List.takeWhile_append_dropWhile]

/-- Slashes that are skipped may end an authority. -/
theorem endsAuthority_text (layout : Layout) (hsome : layout.skipped ≠ []) :
    EndsAuthority layout.text := by
  obtain ⟨slash, more, hskipped⟩ := List.exists_cons_of_ne_nil hsome
  have hslash := layout.isSlash_of_mem slash (hskipped ▸ List.mem_cons_self)
  refine ⟨slash, more ++ (layout.authority ++ layout.rest), ?_, by simp [endsAuthority, hslash]⟩
  rw [text, hskipped, List.cons_append]

/-- The first character that may end the authority stands behind it, unless slashes are skipped. -/
theorem dropWhile_text (layout : Layout) :
    layout.text.dropWhile (fun c => !endsAuthority .special c) =
      if layout.skipped = [] then layout.rest else layout.text := by
  split
  · next hnone =>
      rw [text, hnone, List.nil_append]
      exact dropWhile_inside_append layout.inside layout.rest_ends
  · next hsome =>
      have hnone : Inside [] := nofun
      exact dropWhile_inside_append hnone (.inr (layout.endsAuthority_text hsome))

/-- The query and the fragment stand behind the authority in any case. -/
theorem dropWhile_endsPath_text (layout : Layout) :
    layout.text.dropWhile (fun c => !endsPath c) = layout.rest.dropWhile (fun c => !endsPath c) := by
  have hslash (c : Char) (hc : c ∈ layout.skipped) : endsPath c = false := by
    have hkept := layout.isSlash_of_mem c hc
    simp only [isSlash, Bool.or_eq_true, Bool.and_eq_true, decide_eq_true_eq] at hkept
    rcases hkept with rfl | ⟨rfl, -⟩ <;> decide
  have hinside (c : Char) (hc : c ∈ layout.authority) : endsPath c = false := by
    have hkept := layout.inside c hc
    simp only [endsAuthority, Bool.or_eq_false_iff] at hkept
    rw [endsPath, hkept.1.2, hkept.2]
    rfl
  rw [text, List.dropWhile_append_of_pos fun c hc => by simp [hslash c hc],
    List.dropWhile_append_of_pos fun c hc => by simp [hinside c hc]]

theorem withTail_text (layout : Layout) (url : Url) :
    url.withTail layout.text =
      { url.withTail layout.rest with path := String.ofList (pathPart .special layout.text) } := by
  rw [withTail, dropWhile_endsPath_text]
  rfl

end Layout

end Gatehouse.Url
