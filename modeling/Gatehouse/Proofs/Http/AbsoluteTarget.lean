import Gatehouse.Http.RequestTarget
import Gatehouse.Proofs.Url.Authority

/-!
# Absolute targets

How a request target is read that is spelled out as `http`, an authority, and a path: the authority is
read as it stands, whatever comes after the slash behind it.
-/

namespace Gatehouse.Http.RequestTarget

/-- Reading an absolute `http` target whose authority ends at a slash. -/
theorem parse?_http {authority : String} (hinside : Url.Inside authority.toList) (rest : String) :
    parse? ("http://" ++ authority ++ "/" ++ rest) =
      if maxLength < ("http://" ++ authority ++ "/" ++ rest).utf8ByteSize then none
      else if authority ≠ "" ∧ isAuthority authority.toList then
        (pathAndQuery? ('/' :: rest.toList)).map fun (path, query) =>
          ⟨some "http", some authority, path, query⟩
      else none := by
  have hchars : ("http://" ++ authority ++ "/" ++ rest).toList =
      'h' :: 't' :: 't' :: 'p' :: ':' :: '/' :: '/' :: (authority.toList ++ '/' :: rest.toList) := by
    simp
  have hsplit : splitScheme?
      ('h' :: 't' :: 't' :: 'p' :: ':' :: '/' :: '/' :: (authority.toList ++ '/' :: rest.toList)) =
      some (['h', 't', 't', 'p'], authority.toList ++ '/' :: rest.toList) := rfl
  have hends (c : Char) (hc : c ∈ authority.toList) : (!endsAuthority c) = true := by
    have hsafe := hinside c hc
    simp only [Url.endsAuthority, Url.isSlash, Bool.or_eq_false_iff] at hsafe
    simp [endsAuthority, hsafe]
  have hread : (authority.toList ++ '/' :: rest.toList).takeWhile (fun c => !endsAuthority c) =
      authority.toList := by
    rw [List.takeWhile_append_of_pos hends, List.takeWhile_cons_of_neg (by decide), List.append_nil]
  have hstar : "http://" ++ authority ++ "/" ++ rest ≠ "*" := by
    intro h
    rw [← String.toList_inj, hchars] at h
    cases h
  unfold parse?
  dsimp only
  rw [hchars, if_neg hstar]
  split
  · rfl
  · rw [if_pos (by simp), hsplit]
    split
    · next h => cases h
    · next h => exact absurd (List.cons.inj h).1 (by decide)
    · dsimp only
      have hscheme : String.ofList ['h', 't', 't', 'p'] = "http" := rfl
      have hshort : ['h', 't', 't', 'p'].length ≤ maxSchemeLength := by decide
      rw [hread, List.drop_left, String.ofList_toList, hscheme]
      simp only [hshort, true_and, ne_eq, String.toList_eq_nil_iff]

end Gatehouse.Http.RequestTarget
