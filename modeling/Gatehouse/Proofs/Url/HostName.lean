import Gatehouse.Proofs.Text.Encoding
import Gatehouse.Proofs.Unicode.Composition
import Gatehouse.Proofs.Url.Authority

/-!
# What a host is written with

A text that is read as a host is a name or an address in brackets. A name holds no blank, nothing that
ends an authority, and none of the marks that set user information, a port or an address apart; in an
address only the colons are added. So a reader of URLs finds the same host again in front of a port.
-/

namespace Gatehouse.Url

/-- A character that stands for itself in the name of a host. -/
def isHostChar (c : Char) : Bool :=
  isUnbrokenChar c && !(c = '@' || c = ':' || c = '[' || c = ']')

theorem isUnbrokenChar_of_isHostChar {c : Char} (hc : isHostChar c = true) :
    isUnbrokenChar c = true := by
  rw [isHostChar, Bool.and_eq_true] at hc
  exact hc.1

theorem ne_of_isHostChar {c mark : Char} (hc : isHostChar c = true) (hmark : isHostChar mark = false) :
    c ≠ mark := by
  rintro rfl
  rw [hc] at hmark
  cases hmark

/-- All other characters are below the small letters. -/
theorem toNat_lt_of_not_isHostChar {c : Char} (hc : isHostChar c = false) : c.toNat < 0x60 := by
  rw [isHostChar, Bool.and_eq_false_iff] at hc
  rcases hc with hbroken | hmark
  · rcases cases_of_isUnbrokenChar hbroken with hcontrol | rfl | rfl | rfl | rfl | rfl
    · omega
    all_goals decide
  · simp only [Bool.not_eq_false', Bool.or_eq_true, decide_eq_true_eq] at hmark
    rcases hmark with ((rfl | rfl) | rfl) | rfl <;> decide

/-! ## Names -/

/-- A byte that percent encoding does not use is kept by decoding. -/
theorem mem_percentDecode {b : UInt8} (hmark : b ≠ 0x25) (hdigit : hexByte? b = none)
    {bytes : Bytes} (hb : b ∈ bytes) : b ∈ percentDecode bytes := by
  fun_induction percentDecode bytes with
  | case1 h l rest high low hlow hhigh ih =>
      rcases List.mem_cons.1 hb with rfl | hb
      · exact absurd rfl hmark
      · rcases List.mem_cons.1 hb with rfl | hb
        · rw [hdigit] at hhigh
          cases hhigh
        · rcases List.mem_cons.1 hb with rfl | hb
          · rw [hdigit] at hlow
            cases hlow
          · exact List.mem_cons_of_mem _ (ih hb)
  | case2 h l rest hother ih =>
      rcases List.mem_cons.1 hb with rfl | hb
      · exact absurd rfl hmark
      · exact List.mem_cons_of_mem _ (ih hb)
  | case3 first rest hother ih =>
      rcases List.mem_cons.1 hb with rfl | hb
      · exact List.mem_cons_self
      · exact List.mem_cons_of_mem _ (ih hb)
  | case4 => cases hb

theorem exists_mem_splitAt (sep : Char) {c : Char} {cs : List Char} (hc : c ∈ cs) :
    c = sep ∨ ∃ part ∈ splitAt sep cs, c ∈ part := by
  induction cs with
  | nil => cases hc
  | cons d cs ih =>
      unfold splitAt
      split
      · next hsep =>
          rcases List.mem_cons.1 hc with rfl | hc
          · exact .inl hsep
          · refine (ih hc).imp_right ?_
            rintro ⟨part, hpart, hc⟩
            exact ⟨part, List.mem_cons_of_mem _ hpart, hc⟩
      · split
        · next hnone =>
            rcases List.mem_cons.1 hc with rfl | hc
            · exact .inr ⟨_, List.mem_singleton_self _, List.mem_singleton_self _⟩
            · refine (ih hc).imp_right ?_
              rintro ⟨part, hpart, -⟩
              rw [hnone] at hpart
              cases hpart
        · next first others hsome =>
            rcases List.mem_cons.1 hc with rfl | hc
            · exact .inr ⟨_, List.mem_cons_self, List.mem_cons_self⟩
            · refine (ih hc).imp_right ?_
              rintro ⟨part, hpart, hc⟩
              rw [hsome] at hpart
              rcases List.mem_cons.1 hpart with rfl | hpart
              · exact ⟨_, List.mem_cons_self, List.mem_cons_of_mem _ hc⟩
              · exact ⟨part, List.mem_cons_of_mem _ hpart, hc⟩

/-- A domain in ASCII comes from a text of host characters. The others pass through its preparation and
are permitted in no label. -/
theorem isHostChar_of_domainToAscii? {domain written : List Char}
    (hwritten : domainToAscii? domain = some written) {c : Char} (hc : c ∈ domain) :
    isHostChar c = true := by
  cases hchar : isHostChar c with
  | true => rfl
  | false =>
      have hsmall := toNat_lt_of_not_isHostChar hchar
      have hmarks : isHostChar c = false → isForbidden c = true ∧ c ∈ Unicode.mapChar c ∧
          c ≠ '.' ∧ c ≠ '<' ∧ c ≠ '=' ∧ c ≠ '>' :=
        Text.of_forall_ofNat hsmall (by decide)
      obtain ⟨hforbidden, hmapped, hdot, hless, hequal, hgreater⟩ := hmarks hchar
      have hprepared : c ∈ prepare domain :=
        Unicode.mem_normalize (Nat.lt_trans hsmall (by decide))
          (Unicode.composed?_of_lt_of_ne hsmall hless hequal hgreater)
          (List.mem_flatMap.2 ⟨c, hc, hmapped⟩)
      obtain ⟨label, hlabel, hc⟩ := (exists_mem_splitAt '.' hprepared).resolve_left hdot
      obtain ⟨labels, hlabels, -⟩ := exists_of_domainToAscii? hwritten
      obtain ⟨result, hresult⟩ := exists_eq_some_of_mapM hlabels hlabel
      have hpermitted := (permitted_of_ofPrepared? hresult).1 c hc
      rw [hforbidden] at hpermitted
      cases hpermitted

/-- A host that is no address in brackets is written with host characters only: decoding leaves the others
as they are. -/
theorem isHostChar_of_parse {cs : List Char} {host : Host} (hread : Host.parse cs = .ok host)
    (hname : cs.head? ≠ some '[') {c : Char} (hc : c ∈ cs) : isHostChar c = true := by
  cases hchar : isHostChar c with
  | true => rfl
  | false =>
      have hsmall := toNat_lt_of_not_isHostChar hchar
      have hascii : c.toNat < 0x80 := by omega
      have hmarks : isHostChar c = false →
          hexByte? (UInt8.ofNat c.toNat) = none ∧ UInt8.ofNat c.toNat ≠ 0x25 :=
        Text.of_forall_ofNat hsmall (by decide)
      obtain ⟨hdigit, hmark⟩ := hmarks hchar
      have hbyte : UInt8.ofNat c.toNat ∈ percentDecode (Text.utf8 (String.ofList cs)) := by
        refine mem_percentDecode hmark hdigit ((Text.mem_utf8_iff hascii).2 ?_)
        rwa [String.toList_ofList]
      unfold Host.parse at hread
      rw [if_neg hname] at hread
      split at hread
      · cases hread
      · next decoded hdecoded =>
          rw [Text.ofUtf8?_eq_some_iff.1 hdecoded, Text.mem_utf8_iff hascii] at hbyte
          split at hread
          · cases hread
          · next domain hdomain =>
              rw [isHostChar_of_domainToAscii? hdomain hbyte] at hchar
              cases hchar

/-! ## Addresses -/

/-- A character of an address in brackets: host characters and the colon. -/
def IsAddressText (cs : List Char) : Prop := ∀ c ∈ cs, c = ':' ∨ isHostChar c = true

theorem isHostChar_of_isDigit {c : Char} (hc : c.isDigit = true) : isHostChar c = true := by
  have hsmall : c.toNat < 0x40 := by
    have hrange := (Char.isDigit_iff_toNat.1 hc).2
    exact Nat.lt_of_le_of_lt hrange (by decide)
  have hdigits : c.isDigit = true → isHostChar c = true := Text.of_forall_ofNat hsmall (by decide)
  exact hdigits hc

theorem isHostChar_of_baseDigit? {base n : Nat} {c : Char} (hdigit : baseDigit? base c = some n) :
    isHostChar c = true := by
  have hletter (hrange : 'a' ≤ c ∧ c ≤ 'f' ∨ 'A' ≤ c ∧ c ≤ 'F') : isHostChar c = true := by
    have hsmall : c.toNat < 0x80 := by
      rcases hrange with hrange | hrange
      · exact Nat.lt_of_le_of_lt (UInt32.le_iff_toNat_le.1 hrange.2) (by decide)
      · exact Nat.lt_of_le_of_lt (UInt32.le_iff_toNat_le.1 hrange.2) (by decide)
    have hletters : 'a' ≤ c ∧ c ≤ 'f' ∨ 'A' ≤ c ∧ c ≤ 'F' → isHostChar c = true :=
      Text.of_forall_ofNat hsmall (by decide)
    exact hletters hrange
  unfold baseDigit? at hdigit
  obtain ⟨hvalue, -⟩ := Option.filter_eq_some_iff.1 hdigit
  split at hvalue
  · next hc => exact isHostChar_of_isDigit hc
  · split at hvalue
    · next hc => exact hletter (.inl hc)
    · split at hvalue
      · next hc => exact hletter (.inr hc)
      · cases hvalue

theorem isHostChar_of_ofBaseDigits? {base n : Nat} {cs : List Char}
    (hnumber : ofBaseDigits? base cs = some n) : ∀ c ∈ cs, isHostChar c = true := by
  unfold ofBaseDigits? at hnumber
  generalize 0 = start at hnumber
  induction cs generalizing start with
  | nil => exact nofun
  | cons c cs ih =>
      rw [List.foldlM_cons] at hnumber
      obtain ⟨next, hnext, hrest⟩ := Option.bind_eq_some_iff.1 hnumber
      obtain ⟨digit, hdigit, -⟩ := Option.map_eq_some_iff.1 hnext
      exact List.forall_mem_cons.2 ⟨isHostChar_of_baseDigit? hdigit, ih next hrest⟩

theorem isHostChar_of_tailByte? {n : Nat} {cs : List Char} (hbyte : tailByte? cs = some n) :
    ∀ c ∈ cs, isHostChar c = true := by
  unfold tailByte? at hbyte
  split at hbyte
  · exact List.forall_mem_singleton.2 (by decide)
  · cases hbyte
  · obtain ⟨hnumber, -⟩ := Option.filter_eq_some_iff.1 hbyte
    unfold Number.natural? at hnumber
    obtain ⟨hdigits, -⟩ := Option.ite_none_right_eq_some.1 hnumber
    exact fun c hc => isHostChar_of_isDigit (List.all_eq_true.1 hdigits.2 c hc)

theorem isHostChar_of_pieces? {dottedAllowed : Bool} {parts : List (List Char)} {pieces : List Nat}
    (hpieces : pieces? dottedAllowed parts = some pieces) :
    ∀ part ∈ parts, ∀ c ∈ part, isHostChar c = true := by
  have hpiece {part : List Char} {pieces : List Nat} (hread : pieces?.piece? part = some pieces) :
      ∀ c ∈ part, isHostChar c = true := by
    unfold pieces?.piece? at hread
    obtain ⟨-, hread⟩ := Option.ite_none_right_eq_some.1 hread
    obtain ⟨n, hnumber, -⟩ := Option.map_eq_some_iff.1 hread
    exact isHostChar_of_ofBaseDigits? hnumber
  fun_induction pieces? dottedAllowed parts generalizing pieces with
  | case1 => exact nofun
  | case2 part hdotted hallowed a b c d hbytes =>
      refine List.forall_mem_singleton.2 fun char hchar => ?_
      rcases exists_mem_splitAt '.' hchar with rfl | ⟨byte, hbyte, hchar⟩
      · decide
      · obtain ⟨n, hn⟩ := exists_eq_some_of_mapM hbytes hbyte
        exact isHostChar_of_tailByte? hn char hchar
  | case3 => cases hpieces
  | case4 => cases hpieces
  | case5 part hplain => exact List.forall_mem_singleton.2 (hpiece hpieces)
  | case6 part parts hmore ih =>
      obtain ⟨first, hfirst, hpieces⟩ := Option.bind_eq_some_iff.1 hpieces
      obtain ⟨others, hothers, -⟩ := Option.bind_eq_some_iff.1 hpieces
      exact List.forall_mem_cons.2 ⟨hpiece hfirst, ih hothers⟩

theorem isAddressText_of_pieces? {dottedAllowed : Bool} {cs : List Char} {pieces : List Nat}
    (hpieces : pieces? dottedAllowed (splitAt ':' cs) = some pieces) : IsAddressText cs := by
  intro c hc
  refine (exists_mem_splitAt ':' hc).imp_right ?_
  rintro ⟨part, hpart, hc⟩
  exact isHostChar_of_pieces? hpieces part hpart c hc

theorem eq_of_splitDoubleColon {cs before after : List Char}
    (hsplit : splitDoubleColon cs = some (before, after)) : cs = before ++ ':' :: ':' :: after := by
  induction cs generalizing before after with
  | nil => cases hsplit
  | cons c cs ih =>
      unfold splitDoubleColon at hsplit
      split at hsplit
      · next hmark =>
          cases hsplit
          exact hmark
      · next hcons =>
          cases hcons
          obtain ⟨⟨start, rest⟩, hrest, heq⟩ := Option.map_eq_some_iff.1 hsplit
          cases heq
          rw [ih hrest]
          rfl
      · cases hsplit

theorem isAddressText_of_ipv6? {cs : List Char} {pieces : List Nat}
    (haddress : ipv6? cs = some pieces) : IsAddressText cs := by
  have hside {dottedAllowed : Bool} {text : List Char} {pieces : List Nat}
      (hread : (if text = [] then some [] else pieces? dottedAllowed (splitAt ':' text)) =
        some pieces) : IsAddressText text := by
    split at hread
    · next hnone =>
        rw [hnone]
        exact nofun
    · exact isAddressText_of_pieces? hread
  unfold ipv6? at haddress
  dsimp only at haddress
  split at haddress
  · next before after hsplit =>
      obtain ⟨left, hleft, haddress⟩ := Option.bind_eq_some_iff.1 haddress
      obtain ⟨right, hright, -⟩ := Option.bind_eq_some_iff.1 haddress
      rw [eq_of_splitDoubleColon hsplit]
      intro c hc
      simp only [List.mem_append, List.mem_cons] at hc
      rcases hc with hc | hc | hc | hc
      · exact hside hleft c hc
      · exact .inl hc
      · exact .inl hc
      · exact hside hright c hc
  · obtain ⟨all, hall, -⟩ := Option.bind_eq_some_iff.1 haddress
    exact isAddressText_of_pieces? hall

/-! ## Written hosts -/

/-- How the text of a host looks: a name, or an address in brackets. -/
inductive Host.Written : List Char → Prop
  | name {cs : List Char} : cs ≠ [] → (∀ c ∈ cs, isHostChar c = true) → Host.Written cs
  | address {inner : List Char} : IsAddressText inner → Host.Written ('[' :: (inner ++ [']']))

/-- Whatever is read as a host is written like one. -/
theorem Host.written_of_parse {cs : List Char} {host : Host} (hread : Host.parse cs = .ok host) :
    Host.Written cs := by
  by_cases hname : cs.head? = some '['
  · obtain ⟨rest, rfl⟩ : ∃ rest, cs = '[' :: rest := List.head?_eq_some_iff.1 hname
    unfold Host.parse Host.ofBracketed at hread
    rw [if_pos hname] at hread
    split at hread
    · next hlast =>
        split at hread
        · next pieces haddress =>
            obtain ⟨inner, hinner⟩ := List.getLast?_eq_some_iff.1 hlast
            cases inner with
            | nil => cases hinner
            | cons first inner =>
                obtain ⟨rfl, rfl⟩ : first = '[' ∧ rest = inner ++ [']'] :=
                  ⟨(List.cons.inj hinner).1.symm, (List.cons.inj hinner).2⟩
                rw [List.drop_one, List.tail_cons, List.dropLast_concat] at haddress
                exact .address (isAddressText_of_ipv6? haddress)
        · cases hread
    · cases hread
  · refine .name ?_ fun c hc => isHostChar_of_parse hread hname hc
    rintro rfl
    have hempty : Host.parse [] = .error .emptyHost := rfl
    rw [hempty] at hread
    cases hread

namespace Host.Written

variable {cs : List Char}

theorem ne_nil (hwritten : Host.Written cs) : cs ≠ [] := by
  cases hwritten with
  | name hsome hchars => exact hsome
  | address hinner => nofun

theorem unbroken (hwritten : Host.Written cs) : Unbroken cs := by
  cases hwritten with
  | name hsome hchars => exact fun c hc => isUnbrokenChar_of_isHostChar (hchars c hc)
  | @address inner hinner =>
      have hinside : Unbroken inner := by
        intro c hc
        rcases hinner c hc with rfl | hchar
        · decide
        · exact isUnbrokenChar_of_isHostChar hchar
      exact unbroken_cons.2 ⟨by decide, unbroken_append.2 ⟨hinside, by decide⟩⟩

theorem at_not_mem (hwritten : Host.Written cs) : '@' ∉ cs := by
  intro hat
  cases hwritten with
  | name hsome hchars => exact ne_of_isHostChar (hchars '@' hat) (by decide) rfl
  | address hinner =>
      simp only [List.mem_cons, List.mem_append, List.not_mem_nil, or_false] at hat
      rcases hat with hat | hat | hat
      · exact absurd hat (by decide)
      · rcases hinner '@' hat with hcolon | hchar
        · exact absurd hcolon (by decide)
        · exact ne_of_isHostChar hchar (by decide) rfl
      · exact absurd hat (by decide)

end Host.Written

/-! ## The host in front of a port -/

/-- A text that may follow a host: a port, or the end of the authority. -/
def EndsHost (tail : List Char) : Prop :=
  ∀ c, tail.head? = some c → c = ':' ∨ endsAuthority .special c = true

theorem hostText_of_endsHost {tail : List Char} (hends : EndsHost tail) :
    hostText .special false tail = [] := by
  cases tail with
  | nil => rfl
  | cons c tail =>
      unfold hostText
      exact if_pos ((hends c rfl).imp_left fun hcolon => ⟨hcolon, by decide⟩)

theorem endsAuthority_of_isHostChar {c : Char} (hc : isHostChar c = true) :
    endsAuthority .special c = false := by
  have hunbroken := isUnbrokenChar_of_isHostChar hc
  rw [isUnbrokenChar, Bool.and_eq_true, Bool.not_eq_true'] at hunbroken
  exact hunbroken.2

theorem hostText_name_append {cs : List Char} (hchars : ∀ c ∈ cs, isHostChar c = true)
    (tail : List Char) :
    hostText .special false (cs ++ tail) = cs ++ hostText .special false tail := by
  induction cs with
  | nil => rfl
  | cons c cs ih =>
      obtain ⟨hc, hcs⟩ := List.forall_mem_cons.1 hchars
      have hcolon : c ≠ ':' := ne_of_isHostChar hc (by decide)
      have hopen : c ≠ '[' := ne_of_isHostChar hc (by decide)
      have hclose : c ≠ ']' := ne_of_isHostChar hc (by decide)
      have hinside := endsAuthority_of_isHostChar hc
      rw [List.cons_append, hostText, if_neg (by simp [hcolon, hinside]), if_neg hopen,
        if_neg hclose, ih hcs]
      rfl

/-- Between brackets a colon is one of the address. -/
theorem hostText_address_append {inner : List Char} (hinner : IsAddressText inner)
    (tail : List Char) :
    hostText .special true (inner ++ ']' :: tail) = inner ++ ']' :: hostText .special false tail := by
  induction inner with
  | nil => rfl
  | cons c inner ih =>
      obtain ⟨hc, hrest⟩ := List.forall_mem_cons.1 hinner
      have hkept : endsAuthority .special c = false ∧ c ≠ '[' ∧ c ≠ ']' := by
        rcases hc with rfl | hc
        · decide
        · exact ⟨endsAuthority_of_isHostChar hc, ne_of_isHostChar hc (by decide),
            ne_of_isHostChar hc (by decide)⟩
      obtain ⟨hinside, hopen, hclose⟩ := hkept
      rw [List.cons_append, hostText, if_neg (by simp [hinside]), if_neg hopen, if_neg hclose,
        ih hrest]
      rfl

/-- The host is found in front of whatever may follow it. -/
theorem Host.Written.hostText_append {cs tail : List Char} (hwritten : Host.Written cs)
    (hends : EndsHost tail) : hostText .special false (cs ++ tail) = cs := by
  cases hwritten with
  | name hsome hchars =>
      rw [hostText_name_append hchars, hostText_of_endsHost hends, List.append_nil]
  | @address inner hinner =>
      have hfirst (rest : List Char) :
          hostText .special false ('[' :: rest) = '[' :: hostText .special true rest := rfl
      rw [List.cons_append, List.append_assoc, hfirst, List.singleton_append,
        hostText_address_append hinner, hostText_of_endsHost hends]

end Gatehouse.Url
