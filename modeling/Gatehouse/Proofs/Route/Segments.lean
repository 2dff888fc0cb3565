import Gatehouse.Route.PathPrefix

/-!
# Matching by whole segments

`Covers` says when a prefix matches a path, without saying how a path is read. `strip?` succeeds on
exactly the covered paths, and what it leaves can be put back. Of the prefixes that cover one path no
two have the same size, so that the longest of them is one and only one.
-/

namespace Gatehouse.Route.PathPrefix

/-- The path is the prefix, or goes on behind it with a slash; a single slash covers every path. -/
def Covers (p : PathPrefix) (path : String) : Prop :=
  p.text = "/" ∨ path = p.text ∨ ∃ rest, path = p.text ++ "/" ++ rest

theorem ext_text {p q : PathPrefix} (htext : p.text = q.text) : p = q := by
  cases p
  cases q
  cases htext
  rfl

@[simp] theorem isCatchAll_iff {p : PathPrefix} : p.isCatchAll = true ↔ p.text = "/" := by
  simp [isCatchAll]

theorem isCatchAll_eq_false_iff {p : PathPrefix} : p.isCatchAll = false ↔ p.text ≠ "/" := by
  rw [← Bool.not_eq_true, isCatchAll_iff]

/-- Every prefix begins with a slash. -/
theorem exists_text_eq (p : PathPrefix) : ∃ rest, p.text = "/" ++ rest := by
  have hhead : p.text.toList.head? = some '/' := by
    have hnormal := p.normal
    simp only [isNormal, Bool.or_eq_true, Bool.and_eq_true, decide_eq_true_eq] at hnormal
    rcases hnormal with hroot | ⟨hhead, -⟩
    · rw [hroot]
      rfl
    · exact hhead
  obtain ⟨rest, hrest⟩ := List.head?_eq_some_iff.1 hhead
  exact ⟨String.ofList rest, String.toList_injective (by simp [hrest])⟩

/-- A prefix that does not take every path has no final slash. -/
theorem text_ne_append_slash {p : PathPrefix} (hsome : p.isCatchAll = false) (start : String) :
    p.text ≠ start ++ "/" := by
  intro htext
  have hnormal := p.normal
  rw [htext] at hnormal
  simp only [isNormal, Bool.or_eq_true, Bool.and_eq_true, decide_eq_true_eq] at hnormal
  rcases hnormal with hroot | ⟨-, hlast⟩
  · rw [← htext] at hroot
    have hslash : p.text = "/" := String.toList_injective hroot
    simp [isCatchAll, hslash] at hsome
  · simp at hlast

/-! ## What stripping does -/

/-- A prefix that takes every path leaves what follows one leading slash. -/
theorem strip?_slash_append {p : PathPrefix} (hall : p.isCatchAll = true) (rest : String) :
    p.strip? ("/" ++ rest) = some rest := by
  simp [strip?, hall]

theorem isSome_strip?_of_isCatchAll {p : PathPrefix} (hall : p.isCatchAll = true) (path : String) :
    (p.strip? path).isSome = true := by
  rw [strip?, if_pos hall]
  split <;> rfl

/-- The paths that a prefix strips to a remainder, unless it takes every path. -/
theorem strip?_eq_some_iff {p : PathPrefix} (hsome : p.isCatchAll = false) {path rest : String} :
    p.strip? path = some rest ↔ path = p.text ∧ rest = "" ∨ path = p.text ++ "/" ++ rest := by
  have hpath (tail : List Char) :
      dropStart? p.text.toList path.toList = some tail ↔ path = p.text ++ String.ofList tail := by
    rw [dropStart?_eq_some_iff, ← String.toList_inj, String.toList_append, String.toList_ofList]
  rw [strip?, if_neg (by simp [hsome])]
  constructor
  · intro h
    split at h
    · cases h
    · next hdrop =>
        cases h
        exact .inl ⟨by simpa using (hpath []).1 hdrop, rfl⟩
    · next tail hdrop =>
        cases h
        refine .inr (String.toList_injective ?_)
        simp [(hpath _).1 hdrop]
    · cases h
  · rintro (⟨rfl, rfl⟩ | rfl)
    · rw [(hpath []).2 (by simp)]
    · rw [(hpath ('/' :: rest.toList)).2 (String.toList_injective (by simp))]
      simp

theorem isSome_strip?_iff (p : PathPrefix) (path : String) :
    (p.strip? path).isSome = true ↔ p.Covers path := by
  cases hall : p.isCatchAll with
  | true => simp [isSome_strip?_of_isCatchAll hall, Covers, isCatchAll_iff.1 hall]
  | false =>
      have hroot := isCatchAll_eq_false_iff.1 hall
      simp only [Option.isSome_iff_exists, strip?_eq_some_iff hall, Covers, hroot, false_or]
      constructor
      · rintro ⟨rest, ⟨hpath, -⟩ | hpath⟩
        · exact .inl hpath
        · exact .inr ⟨rest, hpath⟩
      · rintro (hpath | ⟨rest, hpath⟩)
        · exact ⟨"", .inl ⟨hpath, rfl⟩⟩
        · exact ⟨rest, .inr hpath⟩

instance (p : PathPrefix) (path : String) : Decidable (p.Covers path) :=
  decidable_of_iff _ (isSome_strip?_iff p path)

/-! ## Prefixes of one path -/

/-- Two texts of one size that begin the same text are equal. -/
theorem append_inj_of_size {s t a b : String} (htext : s ++ a = t ++ b)
    (hsize : s.utf8ByteSize = t.utf8ByteSize) : s = t := by
  have hempty {u v w : String} (happend : u = v ++ w) (hsame : u.utf8ByteSize = v.utf8ByteSize) :
      u = v := by
    subst happend
    rw [String.utf8ByteSize_append] at hsame
    have hw : w = "" := String.utf8ByteSize_eq_zero_iff.1 (by omega)
    simp [hw]
  have hlist : s.toList ++ a.toList = t.toList ++ b.toList := by
    rw [← String.toList_append, ← String.toList_append, htext]
  rcases List.append_eq_append_iff.1 hlist with ⟨more, hlonger, -⟩ | ⟨more, hlonger, -⟩
  · refine (hempty (w := String.ofList more) (String.toList_injective ?_) hsize.symm).symm
    simp [hlonger]
  · refine hempty (w := String.ofList more) (String.toList_injective ?_) hsize
    simp [hlonger]

/-- A prefix that does not take every path stands at the start of the paths that it covers. -/
theorem Covers.exists_append {p : PathPrefix} {path : String} (hsome : p.isCatchAll = false)
    (hcovers : p.Covers path) : ∃ tail, path = p.text ++ tail := by
  rcases hcovers with hroot | hpath | ⟨rest, hpath⟩
  · simp [isCatchAll, hroot] at hsome
  · exact ⟨"", by simp [hpath]⟩
  · exact ⟨"/" ++ rest, by rw [hpath, String.append_assoc]⟩

/-- A prefix as short as a single slash is a single slash. -/
theorem eq_of_size_eq_of_isCatchAll {p q : PathPrefix} (hall : p.isCatchAll = true)
    (hsize : p.size = q.size) : p = q := by
  obtain ⟨rest, hrest⟩ := q.exists_text_eq
  have hroot := isCatchAll_iff.1 hall
  refine ext_text (append_inj_of_size (a := rest) (b := "") ?_ hsize)
  rw [hroot, hrest, String.append_empty]

/-- Of the prefixes that cover one path, no two have the same size. -/
theorem Covers.eq_of_size_eq {p q : PathPrefix} {path : String} (hp : p.Covers path)
    (hq : q.Covers path) (hsize : p.size = q.size) : p = q := by
  cases hpall : p.isCatchAll with
  | true => exact eq_of_size_eq_of_isCatchAll hpall hsize
  | false =>
      cases hqall : q.isCatchAll with
      | true => exact (eq_of_size_eq_of_isCatchAll hqall hsize.symm).symm
      | false =>
          obtain ⟨a, ha⟩ := hp.exists_append hpall
          obtain ⟨b, hb⟩ := hq.exists_append hqall
          exact ext_text (append_inj_of_size (ha.symm.trans hb) hsize)

end Gatehouse.Route.PathPrefix
