import Gatehouse.Proofs.Text.Blank
import Gatehouse.Proofs.Url.HostName

/-!
# Reading past an authority

A reader of URLs has the whole authority when it comes to the first character that ends one. What
follows decides on the path, the query and the fragment, but neither on user information, host and
port nor on whether the text is a URL at all.
-/

namespace Gatehouse.Url

/-- A text that ends the authority before it. -/
def EndsAuthority (tail : List Char) : Prop :=
  ∃ c rest, tail = c :: rest ∧ endsAuthority .special c = true

/-! ## The parts of an authority -/

theorem eq_of_splitLastAt? {cs before after : List Char}
    (hsplit : splitLastAt? cs = some (before, after)) :
    cs = before ++ '@' :: after := by
  induction cs generalizing before with
  | nil => cases hsplit
  | cons c cs ih =>
      unfold splitLastAt? at hsplit
      cases hrest : splitLastAt? cs with
      | none =>
          rw [hrest] at hsplit
          dsimp only at hsplit
          split at hsplit
          · next hat =>
              cases hsplit
              rw [hat]
              rfl
          · cases hsplit
      | some parts =>
          rw [hrest] at hsplit
          cases hsplit
          rw [ih hrest]
          rfl

/-- The at sign is dropped with all before it, however the text goes on. -/
theorem drop_append_of_splitLastAt? {cs before after : List Char}
    (hsplit : splitLastAt? cs = some (before, after)) (tail : List Char) :
    (cs ++ tail).drop (before.length + 1) = after ++ tail := by
  rw [eq_of_splitLastAt? hsplit, List.append_assoc, ← List.drop_drop, List.drop_left]
  rfl

theorem takeWhile_append_of_endsAuthority {cs tail : List Char} (hinside : Inside cs)
    (hends : EndsAuthority tail) :
    (cs ++ tail).takeWhile (fun c => !endsAuthority .special c) = cs := by
  obtain ⟨c, rest, rfl, hc⟩ := hends
  rw [List.takeWhile_append_of_pos fun d hd => by simp [hinside d hd],
    List.takeWhile_cons_of_neg (by simp [hc]), List.append_nil]

theorem takeWhile_of_inside {cs : List Char} (hinside : Inside cs) :
    cs.takeWhile (fun c => !endsAuthority .special c) = cs :=
  List.takeWhile_eq_self_iff.2 fun c hc => by simp [hinside c hc]

/-- User information is read alike whatever ends the authority, as long as a host follows it. -/
theorem userinfo_append_eq_ok_iff {cs tail longer : List Char} {user : String × Option String}
    (hinside : Inside cs) (hends : EndsAuthority tail)
    (hhost : hostText .special false longer ≠ []) :
    userinfo .special (cs ++ tail) = .ok (user, longer) ↔
      ∃ rest, userinfo .special cs = .ok (user, rest) ∧ longer = rest ++ tail := by
  have hsame (given : String × Option String) (rest : List Char) :
      (Except.ok (given, rest ++ tail) : Except UrlError _) = .ok (user, longer) ↔
        ∃ part, (Except.ok (given, rest) : Except UrlError _) = .ok (user, part) ∧
          longer = part ++ tail := by
    constructor
    · rintro ⟨⟩
      exact ⟨rest, rfl, rfl⟩
    · rintro ⟨part, ⟨⟩, rfl⟩
      rfl
  unfold userinfo
  dsimp only
  rw [takeWhile_append_of_endsAuthority hinside hends, takeWhile_of_inside hinside]
  cases hsplit : splitLastAt? cs with
  | none => exact hsame _ _
  | some parts =>
      obtain ⟨before, after⟩ := parts
      have hafter := drop_append_of_splitLastAt? hsplit []
      rw [List.append_nil, List.append_nil] at hafter
      dsimp only
      rw [drop_append_of_splitLastAt? hsplit, hafter]
      by_cases hbefore : before = []
      · rw [if_pos hbefore, if_pos hbefore]
        -- The first character behind the at sign is the host's, in the longer text as well.
        cases after with
        | nil =>
            obtain ⟨c, rest, rfl, hc⟩ := hends
            have hhead : (((c :: rest).head?).map (endsAuthority .special)).getD false = true := hc
            rw [List.nil_append, if_pos hhead]
            refine ⟨nofun, ?_⟩
            rintro ⟨part, ⟨⟩, rfl⟩
            exact absurd (if_pos (.inr hc)) hhost
        | cons first after =>
            rw [List.cons_append, List.head?_cons, List.head?_cons]
            split
            · exact ⟨nofun, fun ⟨part, hread, _⟩ => nomatch hread⟩
            · exact hsame _ (first :: after)
      · rw [if_neg hbefore, if_neg hbefore]
        exact hsame _ _

theorem hostText_append {cs tail : List Char} (hends : EndsAuthority tail) (bracketed : Bool) :
    hostText .special bracketed (cs ++ tail) = hostText .special bracketed cs := by
  induction cs generalizing bracketed with
  | nil =>
      obtain ⟨c, rest, rfl, hc⟩ := hends
      simp [hostText, hc]
  | cons c cs ih =>
      rw [List.cons_append, hostText, hostText, ih]

theorem length_hostText_le (kind : SchemeKind) (bracketed : Bool) (cs : List Char) :
    (hostText kind bracketed cs).length ≤ cs.length := by
  induction cs generalizing bracketed with
  | nil => exact Nat.le_refl _
  | cons c cs ih =>
      unfold hostText
      split
      · exact Nat.zero_le _
      · exact Nat.succ_le_succ (ih _)

theorem cases_of_endsAuthority {c : Char} (hc : endsAuthority .special c = true) :
    c = '/' ∨ c = '\\' ∨ c = '?' ∨ c = '#' := by
  simp only [endsAuthority, isSlash, Bool.or_eq_true, Bool.and_eq_true, decide_eq_true_eq] at hc
  rcases hc with ((rfl | ⟨rfl, -⟩) | rfl) | rfl <;> simp

theorem endsAuthority_of_endsPort {c : Char} (hc : endsPort c = true) :
    endsAuthority .special c = true := by
  simp only [endsPort, Bool.or_eq_true, decide_eq_true_eq] at hc
  rcases hc with ((rfl | rfl) | rfl) | rfl <;> decide

theorem portPart_of_ne {scheme : String} {c : Char} (hc : c ≠ ':') (cs : List Char) :
    portPart scheme (c :: cs) = .ok (none, c :: cs) := by
  unfold portPart
  split
  · next heq => exact absurd (List.cons.inj heq).1 hc
  · rfl

/-- Behind a colon stands a number that is small enough, and then the end of the port. -/
theorem portPart_colon_eq_ok_iff {scheme : String} {cs after : List Char} {port : Option Nat} :
    portPart scheme (':' :: cs) = .ok (port, after) ↔
      Number.ofDigits (cs.takeWhile Char.isDigit) ≤ 65535 ∧
        (∀ c, (cs.dropWhile Char.isDigit).head? = some c → endsPort c = true) ∧
        after = cs.dropWhile Char.isDigit ∧
        port = if cs.takeWhile Char.isDigit = [] ∨
            defaultPort? scheme = some (Number.ofDigits (cs.takeWhile Char.isDigit)) then none
          else some (Number.ofDigits (cs.takeWhile Char.isDigit)) := by
  have hstop (rest : List Char) : (rest.head?.map endsPort).getD true = true ↔
      ∀ c, rest.head? = some c → endsPort c = true := by
    cases rest <;> simp
  unfold portPart
  split
  · next rest heq =>
      cases heq
      dsimp only
      rw [← hstop]
      generalize cs.takeWhile Char.isDigit = digits, cs.dropWhile Char.isDigit = rest
      by_cases hlarge : 65535 < Number.ofDigits digits
      · rw [if_pos hlarge]
        exact ⟨nofun, fun h => absurd hlarge (Nat.not_lt.2 h.1)⟩
      · rw [if_neg hlarge]
        cases hends : (rest.head?.map endsPort).getD true with
        | false => exact ⟨nofun, fun h => nomatch h.2.1⟩
        | true =>
            rw [if_neg (by decide), ← apply_ite Except.ok, Except.ok.injEq]
            have hpair : (if digits = [] ∨ defaultPort? scheme = some (Number.ofDigits digits)
                then (none, rest) else (some (Number.ofDigits digits), rest)) =
                (if digits = [] ∨ defaultPort? scheme = some (Number.ofDigits digits) then none
                  else some (Number.ofDigits digits), rest) := by split <;> rfl
            rw [hpair, Prod.mk.injEq]
            constructor
            · rintro ⟨rfl, rfl⟩
              exact ⟨Nat.not_lt.1 hlarge, rfl, rfl, rfl⟩
            · rintro ⟨-, -, rfl, rfl⟩
              exact ⟨rfl, rfl⟩
  · next hother => exact absurd rfl (hother cs)

theorem portPart_append (scheme : String) (cs : List Char) {tail : List Char}
    (hends : EndsAuthority tail) :
    portPart scheme (cs ++ tail) =
      (portPart scheme cs).map fun (port, after) => (port, after ++ tail) := by
  obtain ⟨c, rest, rfl, hc⟩ := hends
  have hends := cases_of_endsAuthority hc
  have hcolon : c ≠ ':' := by rcases hends with rfl | rfl | rfl | rfl <;> decide
  have hdigit : c.isDigit = false := by rcases hends with rfl | rfl | rfl | rfl <;> decide
  have hport : endsPort c = true := by rcases hends with rfl | rfl | rfl | rfl <;> decide
  cases cs with
  | nil => exact portPart_of_ne hcolon rest
  | cons d ds =>
      by_cases hd : d = ':'
      · subst hd
        -- The digits of the port end where they did, or at the new text.
        have hstop (left : List Char) :
            ((left ++ c :: rest).head?.map endsPort).getD true =
              (left.head?.map endsPort).getD true := by
          cases left with
          | nil => exact hport
          | cons first left => rfl
        simp only [List.cons_append, portPart]
        rw [Text.takeWhile_append_cons hdigit, Text.dropWhile_append_cons hdigit, hstop]
        split
        · rfl
        · split
          · rfl
          · split
            · rfl
            · rfl
      · rw [List.cons_append, portPart_of_ne hd, portPart_of_ne hd]
        rfl

theorem endsHost_drop_hostText (bracketed : Bool) (cs : List Char) :
    EndsHost (cs.drop (hostText .special bracketed cs).length) := by
  induction cs generalizing bracketed with
  | nil => exact nofun
  | cons c cs ih =>
      unfold hostText
      split
      · next hstop =>
          rintro d ⟨⟩
          exact hstop.imp_left And.left
      · exact ih _

/-- Nothing is left of an authority behind its port. -/
theorem eq_nil_of_portPart {scheme : String} {cs after : List Char} {port : Option Nat}
    (hinside : Inside cs)
    (hread : portPart scheme (cs.drop (hostText .special false cs).length) = .ok (port, after)) :
    after = [] := by
  have hends := endsHost_drop_hostText false cs
  have hinside : Inside (cs.drop (hostText .special false cs).length) :=
    fun c hc => hinside c (List.mem_of_mem_drop hc)
  generalize cs.drop (hostText .special false cs).length = ds at hread hends hinside
  cases ds with
  | nil =>
      cases hread
      rfl
  | cons c ds =>
      rcases hends c rfl with rfl | hc
      · obtain ⟨-, hstop, rfl, -⟩ := portPart_colon_eq_ok_iff.1 hread
        cases hleft : ds.dropWhile Char.isDigit with
        | nil => rfl
        | cons first left =>
            have hfirst : first ∈ ds.dropWhile Char.isDigit := hleft ▸ List.mem_cons_self
            have hkept := hinside first (.tail _ ((List.dropWhile_sublist _).subset hfirst))
            rw [hleft] at hstop
            rw [endsAuthority_of_endsPort (hstop first rfl)] at hkept
            cases hkept
      · rw [hinside c List.mem_cons_self] at hc
        cases hc

/-! ## The whole -/

/-- A URL with the path, the query and the fragment that are read behind its authority. -/
def withTail (url : Url) (tail : List Char) : Url :=
  { url with
    path := String.ofList (pathPart .special tail)
    query := (tailParts .special (tail.dropWhile fun c => !endsPath c)).1
    fragment := (tailParts .special (tail.dropWhile fun c => !endsPath c)).2 }

/-- What is left of an authority behind the user information is a part of it. -/
theorem inside_of_userinfo {cs rest : List Char} {user : String × Option String}
    (hinside : Inside cs) (hread : userinfo .special cs = .ok (user, rest)) : Inside rest := by
  unfold userinfo at hread
  dsimp only at hread
  split at hread
  · cases hread
    exact hinside
  · have hdropped (n : Nat) : Inside (cs.drop n) := fun c hc => hinside c (List.mem_of_mem_drop hc)
    split at hread
    · split at hread
      · cases hread
      · cases hread
        exact hdropped _
    · cases hread
      exact hdropped _

/-- Behind an authority alone there is nothing to read. -/
theorem withTail_nil {scheme : String} {cs : List Char} {url : Url} (hinside : Inside cs)
    (hread : ofAuthority scheme .special cs = .ok url) : url.withTail [] = url := by
  obtain ⟨username, password, rest, host, port, after, huser, -, -, hport, rfl⟩ :=
    ofAuthority_special_eq_ok_iff.1 hread
  rw [eq_nil_of_portPart (inside_of_userinfo hinside huser) hport]
  rfl

/-- An authority is read alike with anything behind it. Only the path, the query and the fragment are
read from there. -/
theorem ofAuthority_append_eq_ok_iff {scheme : String} {cs tail : List Char} {url : Url}
    (hinside : Inside cs) (htail : tail = [] ∨ EndsAuthority tail) :
    ofAuthority scheme .special (cs ++ tail) = .ok url ↔
      ∃ short, ofAuthority scheme .special cs = .ok short ∧ url = short.withTail tail := by
  rcases htail with rfl | hends
  · rw [List.append_nil]
    constructor
    · intro hread
      exact ⟨url, hread, (withTail_nil hinside hread).symm⟩
    · rintro ⟨short, hread, rfl⟩
      rwa [withTail_nil hinside hread]
  · rw [ofAuthority_special_eq_ok_iff]
    have hdrop (rest : List Char) :
        (rest ++ tail).drop (hostText .special false rest).length =
          rest.drop (hostText .special false rest).length ++ tail :=
      List.drop_append_of_le_length (length_hostText_le .special false rest)
    constructor
    · rintro ⟨username, password, longer, host, port, after, huser, hwritten, hhost, hport, rfl⟩
      obtain ⟨rest, hread, rfl⟩ := (userinfo_append_eq_ok_iff hinside hends hwritten).1 huser
      rw [hostText_append hends] at hwritten hhost hport
      rw [hdrop, portPart_append _ _ hends] at hport
      obtain ⟨⟨given, left⟩, hgiven, heq⟩ := map_eq_ok_iff.1 hport
      cases heq
      obtain rfl : left = [] := eq_nil_of_portPart (inside_of_userinfo hinside hread) hgiven
      exact ⟨_, ofAuthority_special_eq_ok_iff.2
        ⟨username, password, rest, host, port, [], hread, hwritten, hhost, hgiven, rfl⟩, rfl⟩
    · rintro ⟨short, hread, rfl⟩
      obtain ⟨username, password, rest, host, port, after, huser, hwritten, hhost, hport, rfl⟩ :=
        ofAuthority_special_eq_ok_iff.1 hread
      have hleft := eq_nil_of_portPart (inside_of_userinfo hinside huser) hport
      have hlonger : portPart scheme
          ((rest ++ tail).drop (hostText .special false (rest ++ tail)).length) =
            .ok (port, tail) := by
        rw [hostText_append hends, hdrop, portPart_append _ _ hends, hport, hleft]
        rfl
      rw [← hostText_append hends] at hwritten hhost
      exact ⟨username, password, rest ++ tail, host, port, tail,
        (userinfo_append_eq_ok_iff hinside hends hwritten).2 ⟨rest, huser, rfl⟩, hwritten, hhost,
        hlonger, rfl⟩

end Gatehouse.Url
