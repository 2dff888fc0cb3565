import Gatehouse.Proofs.Sequencing
import Gatehouse.Url.Parser

/-!
# What stands in an authority

User information, host and port of a parsed `http` URL hold none of the characters that end an
authority, and no blanks either, which a reader of URLs may drop. Whatever follows them in a longer
text, a reader who stops at the first character that ends an authority reads the same one.
-/

namespace Gatehouse.Url

/-- Every character of a text may stand inside an authority. -/
def Inside (cs : List Char) : Prop := ∀ c ∈ cs, endsAuthority .special c = false

/-- A character that a reader of URLs neither drops as a blank nor takes for the end of an
authority. -/
def isUnbrokenChar (c : Char) : Bool := 0x20 < c.toNat && !endsAuthority .special c

/-- Every character of a text stands for itself inside an authority. -/
def Unbroken (cs : List Char) : Prop := ∀ c ∈ cs, isUnbrokenChar c = true

instance (cs : List Char) : Decidable (Unbroken cs) :=
  List.decidableBAll (fun c => isUnbrokenChar c = true) cs

theorem Unbroken.inside {cs : List Char} (hcs : Unbroken cs) : Inside cs := by
  intro c hc
  have hkept := hcs c hc
  rw [isUnbrokenChar, Bool.and_eq_true, Bool.not_eq_true'] at hkept
  exact hkept.2

@[simp] theorem unbroken_nil : Unbroken [] := by
  intro c hc
  cases hc

@[simp] theorem unbroken_append {cs ds : List Char} :
    Unbroken (cs ++ ds) ↔ Unbroken cs ∧ Unbroken ds := by
  simp only [Unbroken, List.mem_append, or_imp, forall_and]

@[simp] theorem unbroken_cons {c : Char} {cs : List Char} :
    Unbroken (c :: cs) ↔ isUnbrokenChar c = true ∧ Unbroken cs := by
  simp only [Unbroken, List.forall_mem_cons]

/-- What stands in joined parts stands in one of them or in what joins them. -/
theorem mem_intercalate {sep : List Char} {parts : List (List Char)} {c : Char}
    (hc : c ∈ List.intercalate sep parts) : c ∈ sep ∨ ∃ part ∈ parts, c ∈ part := by
  induction parts with
  | nil => cases hc
  | cons part parts ih =>
      cases parts with
      | nil => exact .inr ⟨part, List.mem_cons_self, by simpa using hc⟩
      | cons next parts =>
          rw [List.intercalate_cons_cons, List.mem_append, List.mem_append] at hc
          rcases hc with (hc | hc) | hc
          · exact .inr ⟨part, List.mem_cons_self, hc⟩
          · exact .inl hc
          · refine (ih hc).imp_right ?_
            rintro ⟨other, hother, hc⟩
            exact ⟨other, List.mem_cons_of_mem _ hother, hc⟩

theorem Unbroken.intercalate {parts : List (List Char)} {sep : List Char} (hsep : Unbroken sep)
    (hparts : ∀ part ∈ parts, Unbroken part) : Unbroken (List.intercalate sep parts) := by
  intro c hc
  rcases mem_intercalate hc with hc | ⟨part, hpart, hc⟩
  · exact hsep c hc
  · exact hparts part hpart c hc

/-! ## Digits -/

theorem exists_digitChar_of_mem_toDigits {b : Nat} (hb : 1 < b) {n : Nat} {c : Char}
    (hc : c ∈ Nat.toDigits b n) : ∃ d, d < b ∧ c = Nat.digitChar d := by
  induction n using Nat.strongRecOn with
  | ind n ih =>
      rw [Nat.toDigits_eq_if hb] at hc
      split at hc
      · next hsmall => exact ⟨n, hsmall, List.mem_singleton.1 hc⟩
      · next hlarge =>
          rcases List.mem_append.1 hc with hc | hc
          · exact ih (n / b) (Nat.div_lt_self (by omega) hb) hc
          · exact ⟨n % b, Nat.mod_lt n (by omega), List.mem_singleton.1 hc⟩

theorem unbroken_toDigits {b : Nat} (hb : 1 < b) (hsmall : b ≤ 16) (n : Nat) :
    Unbroken (Nat.toDigits b n) := by
  have hdigit : ∀ d < 16, isUnbrokenChar (Nat.digitChar d) = true := by decide
  intro c hc
  obtain ⟨d, hd, rfl⟩ := exists_digitChar_of_mem_toDigits hb hc
  exact hdigit d (by omega)

/-! ## Percent encoding -/

/-- What percent encoding writes is a percent sign, a hexadecimal digit, or a character left as it is. -/
theorem mem_percentEncode {inSet : Char → Bool} {cs : List Char} {c : Char}
    (hc : c ∈ percentEncode inSet cs) :
    c = '%' ∨ (∃ d, d < 16 ∧ c = hexDigit d) ∨ c ∈ cs ∧ inSet c = false := by
  obtain ⟨source, hsource, hc⟩ := List.mem_flatMap.1 hc
  split at hc
  · obtain ⟨b, -, hc⟩ := List.mem_flatMap.1 hc
    have hb := b.toNat_lt
    simp only [encodeByte, List.mem_cons, List.not_mem_nil, or_false] at hc
    rcases hc with hc | hc | hc
    · exact .inl hc
    · exact .inr (.inl ⟨_, by omega, hc⟩)
    · exact .inr (.inl ⟨_, by omega, hc⟩)
  · next hkept =>
      obtain rfl := List.mem_singleton.1 hc
      exact .inr (.inr ⟨hsource, Bool.eq_false_iff.2 hkept⟩)

/-- What holds of percent signs, digits and the characters that are left holds of an encoded text. -/
theorem forall_mem_percentEncode {P : Char → Prop} {inSet : Char → Bool} (hmark : P '%')
    (hdigits : ∀ d < 16, P (hexDigit d)) (hkept : ∀ c, inSet c = false → P c) (cs : List Char) :
    ∀ c ∈ percentEncode inSet cs, P c := by
  intro c hc
  rcases mem_percentEncode hc with rfl | ⟨d, hd, rfl⟩ | ⟨-, hc⟩
  · exact hmark
  · exact hdigits d hd
  · exact hkept c hc

theorem unbroken_percentEncode {inSet : Char → Bool}
    (hset : ∀ c, isUnbrokenChar c = false → inSet c = true) (cs : List Char) :
    Unbroken (percentEncode inSet cs) := by
  refine forall_mem_percentEncode (by decide) (by decide) (fun c hkept => ?_) cs
  cases hbroken : isUnbrokenChar c with
  | true => rfl
  | false =>
      rw [hset c hbroken] at hkept
      cases hkept

/-- What breaks an authority is a control, a space, or a character that ends it. -/
theorem cases_of_isUnbrokenChar {c : Char} (hc : isUnbrokenChar c = false) :
    c.toNat < 0x20 ∨ c = ' ' ∨ c = '/' ∨ c = '\\' ∨ c = '?' ∨ c = '#' := by
  rw [isUnbrokenChar, Bool.and_eq_false_iff, decide_eq_false_iff_not, Bool.not_eq_false'] at hc
  rcases hc with hlow | hends
  · rcases Nat.lt_or_eq_of_le (Nat.le_of_not_lt hlow) with hcontrol | hspace
    · exact .inl hcontrol
    · exact .inr (.inl (Char.toNat_inj.1 hspace))
  · simp only [endsAuthority, isSlash, Bool.or_eq_true, Bool.and_eq_true, decide_eq_true_eq] at hends
    rcases hends with ((rfl | ⟨rfl, -⟩) | rfl) | rfl <;> simp

/-- User names and passwords are encoded. -/
theorem unbroken_encoded_userinfo (cs : List Char) : Unbroken (percentEncode inUserinfoSet cs) := by
  refine unbroken_percentEncode (fun c hbroken => ?_) cs
  rcases cases_of_isUnbrokenChar hbroken with hcontrol | rfl | rfl | rfl | rfl | rfl
  · simp [inUserinfoSet, inPathSet, inFragmentSet, isControl, hcontrol]
  all_goals decide

/-! ## Domains -/

/-- Every character of a text may stand in a domain. -/
def Permitted (cs : List Char) : Prop := ∀ c ∈ cs, isForbidden c = false

instance (cs : List Char) : Decidable (Permitted cs) :=
  List.decidableBAll (fun c => isForbidden c = false) cs

@[simp] theorem permitted_nil : Permitted [] := by
  intro c hc
  cases hc

@[simp] theorem permitted_append {cs ds : List Char} :
    Permitted (cs ++ ds) ↔ Permitted cs ∧ Permitted ds := by
  simp only [Permitted, List.mem_append, or_imp, forall_and]

@[simp] theorem permitted_cons {c : Char} {cs : List Char} :
    Permitted (c :: cs) ↔ isForbidden c = false ∧ Permitted cs := by
  simp only [Permitted, List.forall_mem_cons]

/-- No character that a domain may hold breaks an authority. -/
theorem isUnbrokenChar_of_not_isForbidden {c : Char} (hc : isForbidden c = false) :
    isUnbrokenChar c = true := by
  cases hbroken : isUnbrokenChar c with
  | true => rfl
  | false =>
      rcases cases_of_isUnbrokenChar hbroken with hcontrol | rfl | rfl | rfl | rfl | rfl
      · simp [isForbidden, Nat.le_of_lt hcontrol] at hc
      all_goals cases hc

theorem Permitted.unbroken {cs : List Char} (hcs : Permitted cs) : Unbroken cs :=
  fun c hc => isUnbrokenChar_of_not_isForbidden (hcs c hc)

/-- A character is a digit of a written label. -/
def Punycode.IsDigit (c : Char) : Prop := ∃ d, d < 36 ∧ c = Punycode.digit d

theorem Punycode.isDigit_of_mem_distanceDigits {bias fuel k q : Nat} {c : Char}
    (hc : c ∈ Punycode.distanceDigits bias fuel k q) : IsDigit c := by
  have hthreshold (k : Nat) : Punycode.threshold k bias ≤ 26 := Nat.min_le_left _ _
  induction fuel generalizing k q with
  | zero => cases hc
  | succ fuel ih =>
      have ht := hthreshold k
      unfold Punycode.distanceDigits at hc
      dsimp only at hc
      split at hc
      · next hlast => exact ⟨q, by omega, List.mem_singleton.1 hc⟩
      · rcases List.mem_cons.1 hc with hfirst | hrest
        · have hmod := Nat.mod_lt (q - Punycode.threshold k bias)
            (show 0 < 36 - Punycode.threshold k bias by omega)
          exact ⟨_, by omega, hfirst⟩
        · exact ih hrest

theorem Punycode.mem_pass {basic point : Nat} {w : Writer} {source c : Char}
    (hc : c ∈ (w.pass basic point source).out) : c ∈ w.out ∨ IsDigit c := by
  unfold Punycode.Writer.pass at hc
  split at hc
  · exact .inl hc
  · split at hc
    · exact (List.mem_append.1 hc).imp_right isDigit_of_mem_distanceDigits
    · exact .inl hc

theorem Punycode.mem_place {label : List Char} {basic next : Nat} {points : List Nat} {w : Writer}
    {c : Char} (hc : c ∈ (place label basic points next w).out) : c ∈ w.out ∨ IsDigit c := by
  have hpasses (point : Nat) (cs : List Char) {w : Writer}
      (hc : c ∈ (cs.foldl (Writer.pass basic point) w).out) : c ∈ w.out ∨ IsDigit c := by
    induction cs generalizing w with
    | nil => exact .inl hc
    | cons source cs ih => exact (ih hc).elim mem_pass .inr
  induction points generalizing next w with
  | nil => exact .inl hc
  | cons point points ih =>
      unfold place at hc
      exact (ih hc).elim (hpasses point label) .inr

/-- The written form of a label has the label's own ASCII characters, hyphens and digits. -/
theorem Punycode.mem_encode {label : List Char} {c : Char} (hc : c ∈ encode label) :
    c ∈ label ∧ c.toNat < 0x80 ∨ c = '-' ∨ IsDigit c := by
  unfold encode at hc
  rcases List.mem_append.1 hc with hc | hc
  · rcases List.mem_append.1 hc with hc | hc
    · obtain ⟨hmem, hsmall⟩ := List.mem_filter.1 hc
      exact .inl ⟨hmem, of_decide_eq_true hsmall⟩
    · split at hc
      · cases hc
      · exact .inr (.inl (List.mem_singleton.1 hc))
  · exact .inr (.inr ((mem_place hc).resolve_left List.not_mem_nil))

theorem Punycode.permitted_encode {label : List Char} (hlabel : Permitted label) :
    Permitted (encode label) := by
  have hdigits : ∀ d < 36, isForbidden (digit d) = false := by decide
  intro c hc
  rcases mem_encode hc with ⟨hmem, -⟩ | rfl | ⟨d, hd, rfl⟩
  · exact hlabel c hmem
  · decide
  · exact hdigits d hd

theorem permitted_of_labelInOrder {label : List Char} (horder : labelInOrder label = true) :
    Permitted label := by
  intro c hc
  simp only [labelInOrder, Bool.and_eq_true] at horder
  have hkept := List.all_eq_true.1 horder.1.1 c hc
  simp only [Bool.and_eq_true, Bool.not_eq_true'] at hkept
  exact hkept.1

/-- What is written of a label: itself, or the mark and Punycode of a label in order. -/
theorem cases_of_ofPrepared? {label : List Char} {read : Label}
    (hread : Label.ofPrepared? label = some read) :
    labelInOrder read.text = true ∧
      ((read.written = label ∧ read.text = label ∧ ∀ c ∈ label, c.toNat < 0x80) ∨
        read.written = ['x', 'n', '-', '-'] ++ Punycode.encode read.text ∧
          (read.text = label ∨ read.written = label)) := by
  unfold Label.ofPrepared? at hread
  split at hread
  · next rest =>
      obtain ⟨-, hread⟩ := Option.ite_none_left_eq_some.1 hread
      split at hread
      · cases hread
      · next decoded _ =>
          obtain ⟨⟨-, horder, -, hencoded⟩, hsame⟩ := Option.ite_none_right_eq_some.1 hread
          cases hsame
          refine ⟨horder, .inr ⟨?_, .inr rfl⟩⟩
          rw [hencoded]
          rfl
  · obtain ⟨horder, hread⟩ := Option.ite_none_right_eq_some.1 hread
    split at hread
    · next hascii =>
        cases hread
        exact ⟨horder, .inl ⟨rfl, rfl, fun c hc => of_decide_eq_true (List.all_eq_true.1 hascii c hc)⟩⟩
    · obtain ⟨-, hsame⟩ := Option.ite_none_left_eq_some.1 hread
      cases hsame
      exact ⟨horder, .inr ⟨rfl, .inl rfl⟩⟩

/-- A label that is written in ASCII holds permitted characters only, before and after. -/
theorem permitted_of_ofPrepared? {label : List Char} {read : Label}
    (hread : Label.ofPrepared? label = some read) : Permitted label ∧ Permitted read.written := by
  have hmark : Permitted ['x', 'n', '-', '-'] := by decide
  obtain ⟨horder, hcases⟩ := cases_of_ofPrepared? hread
  have htext := permitted_of_labelInOrder horder
  rcases hcases with ⟨hwritten, hsame, -⟩ | ⟨hwritten, hsame⟩
  · rw [hwritten, ← hsame]
    exact ⟨htext, htext⟩
  · have hencoded : Permitted read.written := by
      rw [hwritten]
      exact permitted_append.2 ⟨hmark, Punycode.permitted_encode htext⟩
    rcases hsame with hsame | hsame
    · exact ⟨hsame ▸ htext, hencoded⟩
    · exact ⟨hsame ▸ hencoded, hencoded⟩

/-- A domain in ASCII is made of the labels that it was prepared to. -/
theorem exists_of_domainToAscii? {domain written : List Char}
    (hwritten : domainToAscii? domain = some written) :
    ∃ labels, (splitAt '.' (prepare domain)).mapM Label.ofPrepared? = some labels ∧
      written = ['.'].intercalate (labels.map Label.written) := by
  obtain ⟨labels, hlabels, hkept⟩ := Option.bind_eq_some_iff.1 hwritten
  obtain ⟨-, hsame⟩ := Option.ite_none_right_eq_some.1 hkept
  exact ⟨labels, hlabels, (Option.some.inj hsame).symm⟩

theorem unbroken_domainToAscii {domain written : List Char}
    (hwritten : domainToAscii? domain = some written) : Unbroken written := by
  obtain ⟨labels, hlabels, rfl⟩ := exists_of_domainToAscii? hwritten
  refine Unbroken.intercalate (by decide) fun part hpart => ?_
  obtain ⟨label, hlabel, rfl⟩ := List.mem_map.1 hpart
  obtain ⟨source, -, hsource⟩ := exists_of_mem_mapM hlabels hlabel
  exact (permitted_of_ofPrepared? hsource).2.unbroken

/-! ## Hosts -/

theorem unbroken_printPieces (pieces : List Nat) : Unbroken (printPieces pieces) := by
  refine Unbroken.intercalate (by decide) fun part hpart => ?_
  obtain ⟨n, -, rfl⟩ := List.mem_map.1 hpart
  exact unbroken_toDigits (by decide) (by decide) n

theorem Host.unbroken_text_ipv4 (n : Nat) : Unbroken (Host.ipv4 n).text.toList := by
  have hdigits (m : Nat) : Unbroken (Number.digits m) := unbroken_toDigits (by decide) (by decide) m
  have hdot : isUnbrokenChar '.' = true := by decide
  simp [Host.text, printIpv4, hdigits, hdot]

theorem Host.unbroken_text_ipv6 (pieces : List Nat) : Unbroken (Host.ipv6 pieces).text.toList := by
  have hprinted : Unbroken (printIpv6 pieces) := by
    unfold printIpv6
    dsimp only
    split
    · exact unbroken_printPieces pieces
    · exact unbroken_append.2
        ⟨unbroken_append.2 ⟨unbroken_printPieces _, by decide⟩, unbroken_printPieces _⟩
  rw [Host.text, String.toList_ofList]
  exact unbroken_append.2 ⟨unbroken_cons.2 ⟨by decide, hprinted⟩, by decide⟩

theorem Host.unbroken_text_of_parse {cs : List Char} {host : Host} (hparse : Host.parse cs = .ok host) :
    Unbroken host.text.toList := by
  unfold Host.parse at hparse
  split at hparse
  · unfold Host.ofBracketed at hparse
    split at hparse
    · split at hparse
      · cases hparse
        exact Host.unbroken_text_ipv6 _
      · cases hparse
    · cases hparse
  · split at hparse
    · cases hparse
    · split at hparse
      · cases hparse
      · next domain hdomain =>
          split at hparse
          · cases hparse
          · split at hparse
            · split at hparse
              · cases hparse
                exact Host.unbroken_text_ipv4 _
              · cases hparse
            · cases hparse
              simpa [Host.text] using unbroken_domainToAscii hdomain

/-! ## Parsed URLs -/

/-- What is read before the host: nothing, or an encoded user name with or without a password. -/
theorem encoded_of_userinfo {kind : SchemeKind} {cs rest : List Char} {username : String}
    {password : Option String} (hread : userinfo kind cs = .ok ((username, password), rest)) :
    (∃ part, username.toList = percentEncode inUserinfoSet part) ∧
      ∀ secret, password = some secret → ∃ part, secret.toList = percentEncode inUserinfoSet part := by
  unfold userinfo at hread
  dsimp only at hread
  split at hread
  · cases hread
    exact ⟨⟨[], rfl⟩, fun secret h => nomatch h⟩
  · next before _ _ =>
      split at hread
      · split at hread
        · cases hread
        · cases hread
          exact ⟨⟨[], rfl⟩, fun secret h => nomatch h⟩
      · cases hread
        refine ⟨⟨_, String.toList_ofList⟩, fun secret hsecret => ?_⟩
        split at hsecret
        · cases hsecret
        · cases hsecret
          exact ⟨_, String.toList_ofList⟩

/-- What a URL with a special scheme is made of. -/
theorem ofAuthority_special_eq_ok_iff {scheme : String} {cs : List Char} {url : Url} :
    ofAuthority scheme .special cs = .ok url ↔
      ∃ username password rest host port after,
        userinfo .special cs = .ok ((username, password), rest) ∧
        hostText .special false rest ≠ [] ∧
        Host.parse (hostText .special false rest) = .ok host ∧
        portPart scheme (rest.drop (hostText .special false rest).length) = .ok (port, after) ∧
        url =
          { scheme, username, password, host := some host, port
            path := String.ofList (pathPart .special after)
            query := (tailParts .special (after.dropWhile fun c => !endsPath c)).1
            fragment := (tailParts .special (after.dropWhile fun c => !endsPath c)).2 } := by
  unfold ofAuthority
  constructor
  · intro hread
    obtain ⟨⟨⟨username, password⟩, rest⟩, huser, hread⟩ := bind_eq_ok_iff.1 hread
    dsimp only at hread
    split at hread
    · cases hread
    · next hwritten =>
        have hsome : hostText .special false rest ≠ [] := fun h => hwritten ⟨rfl, h⟩
        rw [if_neg (by decide)] at hread
        obtain ⟨host, hhost, hread⟩ := bind_eq_ok_iff.1 hread
        rw [if_neg (fun h => hsome h.1)] at hread
        obtain ⟨⟨port, after⟩, hport, hread⟩ := bind_eq_ok_iff.1 hread
        rw [if_neg (fun h => hsome h.1), if_neg hsome] at hread
        cases hread
        exact ⟨username, password, rest, host, port, after, huser, hsome, hhost, hport, rfl⟩
  · rintro ⟨username, password, rest, host, port, after, huser, hsome, hhost, hport, rfl⟩
    rw [huser, ok_bind]
    dsimp only
    rw [if_neg (fun h => hsome h.2), if_neg (by decide), hhost, ok_bind, if_neg (fun h => hsome h.1),
      hport, ok_bind, if_neg (fun h => hsome h.1), if_neg hsome]
    rfl

theorem scheme_of_ofAuthority {scheme : String} {kind : SchemeKind} {cs : List Char} {url : Url}
    (hread : ofAuthority scheme kind cs = .ok url) : url.scheme = scheme := by
  unfold ofAuthority at hread
  obtain ⟨⟨⟨username, password⟩, rest⟩, -, hread⟩ := bind_eq_ok_iff.1 hread
  dsimp only at hread
  split at hread
  · cases hread
  · split at hread
    all_goals
      obtain ⟨host, -, hread⟩ := bind_eq_ok_iff.1 hread
      split at hread
      · cases hread
      · obtain ⟨⟨port, afterPort⟩, -, hread⟩ := bind_eq_ok_iff.1 hread
        dsimp only at hread
        split at hread
        · cases hread
        · cases hread
          rfl

theorem scheme_of_ofFile {cs : List Char} {url : Url} (hread : ofFile cs = .ok url) :
    url.scheme = "file" := by
  unfold ofFile at hread
  dsimp only at hread
  cases hhost : fileHost? (splitFileHost cs).1 with
  | error reason =>
      rw [hhost] at hread
      cases hread
  | ok host =>
      rw [hhost] at hread
      cases hread
      rfl

/-- An `http` URL was read from an authority. -/
theorem exists_ofAuthority_of_parse {s : String} {url : Url} (hparse : Url.parse s = .ok url)
    (hhttp : url.scheme = "http") : ∃ cs, ofAuthority "http" .special cs = .ok url := by
  have hkind : SchemeKind.of "http" = .special := by decide
  unfold Url.parse at hparse
  split at hparse
  · cases hparse
  · next name rest _ =>
      dsimp only at hparse
      split at hparse
      · have hscheme := scheme_of_ofAuthority hparse
        rw [hhttp] at hscheme
        exact ⟨_, hscheme ▸ hparse⟩
      · have hscheme := scheme_of_ofFile hparse
        rw [hhttp] at hscheme
        exact absurd hscheme (by decide)
      · next hother =>
          have hscheme : url.scheme = String.ofList name := by
            split at hparse
            · exact scheme_of_ofAuthority hparse
            · cases hparse
              rfl
          rw [← hscheme, hhttp, hkind] at hother
          cases hother

/-- The path of an `http` URL begins with a slash. -/
theorem exists_path_of_parse {s : String} {url : Url} (hparse : Url.parse s = .ok url)
    (hhttp : url.scheme = "http") : ∃ rest, url.path.toList = '/' :: rest := by
  obtain ⟨cs, hread⟩ := exists_ofAuthority_of_parse hparse hhttp
  obtain ⟨_, _, _, _, _, after, -, -, -, -, rfl⟩ := ofAuthority_special_eq_ok_iff.1 hread
  rw [String.toList_ofList, pathPart]
  split
  · exact ⟨[], rfl⟩
  · split
    · exact ⟨_, rfl⟩
    · exact ⟨_, rfl⟩

/-- The authority of an `http` URL holds no character that ends one, and no blank. -/
theorem unbroken_authority_of_parse {s : String} {url : Url} (hparse : Url.parse s = .ok url)
    (hhttp : url.scheme = "http") : Unbroken url.authority.toList := by
  obtain ⟨cs, hread⟩ := exists_ofAuthority_of_parse hparse hhttp
  obtain ⟨_, password, _, host, port, _, huser, -, hhost, -, rfl⟩ :=
    ofAuthority_special_eq_ok_iff.1 hread
  obtain ⟨⟨user, husername⟩, hpassword⟩ := encoded_of_userinfo huser
  unfold authority credentials
  dsimp only
  rw [String.toList_append, String.toList_append, unbroken_append, unbroken_append]
  refine ⟨⟨?_, Host.unbroken_text_of_parse hhost⟩, ?_⟩
  · split
    · exact unbroken_nil
    · rw [String.toList_append, String.toList_append]
      rw [husername]
      refine unbroken_append.2 ⟨unbroken_append.2 ⟨unbroken_encoded_userinfo user, ?_⟩, by decide⟩
      cases password with
      | none => exact unbroken_nil
      | some secret =>
          obtain ⟨part, hsecret⟩ := hpassword secret rfl
          rw [String.toList_append, hsecret]
          exact unbroken_append.2 ⟨by decide, unbroken_encoded_userinfo part⟩
  · cases port with
    | none => exact unbroken_nil
    | some port =>
        have hdigits : Unbroken (Number.digits port) := unbroken_toDigits (by decide) (by decide) port
        rw [String.toList_append]
        refine unbroken_append.2 ⟨by decide, ?_⟩
        simpa using hdigits

end Gatehouse.Url
