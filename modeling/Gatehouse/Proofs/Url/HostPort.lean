import Gatehouse.Proofs.Url.Reading

/-!
# A host and its port

A text that names a host and maybe a port is read as an authority with that host and that port, and
with no user, whatever stands behind it.
-/

namespace Gatehouse.Url

/-- The text of a port: none, or a number behind a colon, which may be left out. -/
inductive PortText : List Char → Option Nat → Prop
  | absent : PortText [] none
  | empty : PortText [':'] none
  | number {digits : List Char} : digits ≠ [] → (∀ c ∈ digits, c.isDigit = true) →
      Number.ofDigits digits ≤ 65535 → PortText (':' :: digits) (some (Number.ofDigits digits))

/-- The text of a host with the text of a port behind it. -/
inductive HostPort : List Char → Host → Option Nat → Prop
  | intro {name text : List Char} {host : Host} {port : Option Nat} :
      Host.parse name = .ok host → PortText text port → HostPort (name ++ text) host port

namespace PortText

variable {text : List Char} {port : Option Nat}

theorem endsHost (hport : PortText text port) : EndsHost text := by
  cases hport with
  | absent => exact nofun
  | empty =>
      rintro c ⟨⟩
      exact .inl rfl
  | number hsome hdigits hsmall =>
      rintro c ⟨⟩
      exact .inl rfl

theorem mem_cases (hport : PortText text port) {c : Char} (hc : c ∈ text) :
    c = ':' ∨ c.isDigit = true := by
  cases hport with
  | absent => cases hc
  | empty => exact .inl (List.mem_singleton.1 hc)
  | number hsome hdigits hsmall => exact (List.mem_cons.1 hc).imp_right (hdigits c)

theorem unbroken (hport : PortText text port) : Unbroken text := by
  intro c hc
  rcases hport.mem_cases hc with rfl | hdigit
  · decide
  · exact isUnbrokenChar_of_isHostChar (isHostChar_of_isDigit hdigit)

theorem at_not_mem (hport : PortText text port) : '@' ∉ text := by
  intro hat
  rcases hport.mem_cases hat with hcolon | hdigit
  · exact absurd hcolon (by decide)
  · exact absurd hdigit (by decide)

/-- The port of the scheme is left out. -/
theorem portPart_eq (hport : PortText text port) (scheme : String) :
    portPart scheme text = .ok (port.filter fun n => defaultPort? scheme ≠ some n, []) := by
  cases hport with
  | absent => rfl
  | empty => rfl
  | @number digits hsome hdigits hsmall =>
      have htake : digits.takeWhile Char.isDigit = digits := List.takeWhile_eq_self_iff.2 hdigits
      have hdrop : digits.dropWhile Char.isDigit = [] := List.dropWhile_eq_nil_iff.2 hdigits
      rw [portPart_colon_eq_ok_iff, htake, hdrop]
      refine ⟨hsmall, nofun, rfl, ?_⟩
      by_cases hdefault : defaultPort? scheme = some (Number.ofDigits digits)
      · rw [if_pos (.inr hdefault), Option.filter_some_neg (by simp [hdefault])]
      · rw [if_neg (by simp [hsome, hdefault]), Option.filter_some_pos (by simp [hdefault])]

end PortText

theorem splitLastAt?_eq_none {cs : List Char} (hat : '@' ∉ cs) : splitLastAt? cs = none := by
  cases hsplit : splitLastAt? cs with
  | none => rfl
  | some parts =>
      rw [eq_of_splitLastAt? hsplit] at hat
      exact absurd (List.mem_append_right _ List.mem_cons_self) hat

/-- Without an at sign there is no user. -/
theorem userinfo_of_at_not_mem {cs : List Char} (hinside : Inside cs) (hat : '@' ∉ cs) :
    userinfo .special cs = .ok (("", none), cs) := by
  unfold userinfo
  dsimp only
  rw [takeWhile_of_inside hinside, splitLastAt?_eq_none hat]

namespace HostPort

variable {cs : List Char} {host : Host} {port : Option Nat}

theorem unbroken (hport : HostPort cs host port) : Unbroken cs := by
  cases hport with
  | intro hhost hport =>
      exact unbroken_append.2 ⟨(Host.written_of_parse hhost).unbroken, hport.unbroken⟩

theorem ne_nil (hport : HostPort cs host port) : cs ≠ [] := by
  cases hport with
  | intro hhost hport => exact List.append_ne_nil_of_left_ne_nil (Host.written_of_parse hhost).ne_nil _

/-- The whole text is read as an authority. -/
theorem ofAuthority_eq (hport : HostPort cs host port) (scheme : String) :
    ofAuthority scheme .special cs =
      .ok ⟨scheme, "", none, some host, port.filter fun n => defaultPort? scheme ≠ some n, "/",
        none, none⟩ := by
  have hinside := hport.unbroken.inside
  cases hport with
  | @intro name text _ _ hhost hport =>
      have hwritten := Host.written_of_parse hhost
      have hat : '@' ∉ name ++ text :=
        fun hmem => (List.mem_append.1 hmem).elim hwritten.at_not_mem hport.at_not_mem
      have hfound : hostText .special false (name ++ text) = name :=
        hwritten.hostText_append hport.endsHost
      have hleft : portPart scheme ((name ++ text).drop name.length) =
          .ok (port.filter fun n => defaultPort? scheme ≠ some n, []) := by
        rw [List.drop_left]
        exact hport.portPart_eq scheme
      refine ofAuthority_special_eq_ok_iff.2 ⟨"", none, name ++ text, host, _, [],
        userinfo_of_at_not_mem hinside hat, ?_, ?_, ?_, rfl⟩
      · rw [hfound]
        exact hwritten.ne_nil
      · rwa [hfound]
      · rwa [hfound]

end HostPort

end Gatehouse.Url
