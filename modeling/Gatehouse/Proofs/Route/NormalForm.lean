import Gatehouse.Proofs.Route.Segments
import Mathlib.Data.List.DropRight

/-!
# Normal forms of prefixes

A prefix may be spelled with slashes at its end and without the one in front; all spellings name the same
prefix, and a prefix names itself. What a prefix matches is told by segments: it matches the paths whose
segments begin with its own, however much the texts have in common otherwise.
-/

namespace Gatehouse.Route

/-! ## Slashes at both ends -/

/-- A number of slashes. -/
def slashes (n : Nat) : String := String.ofList (List.replicate n '/')

@[simp] theorem slashes_zero : slashes 0 = "" := rfl

theorem slashes_succ (n : Nat) : slashes (n + 1) = "/" ++ slashes n := by
  refine String.toList_injective ?_
  simp [slashes, List.replicate_succ]

/-- The text begins with a slash. -/
def IsRooted (s : String) : Prop := ∃ rest, s = "/" ++ rest

theorem isRooted_iff {s : String} : IsRooted s ↔ s.toList.head? = some '/' := by
  rw [List.head?_eq_some_iff]
  constructor
  · rintro ⟨rest, rfl⟩
    exact ⟨rest.toList, by simp⟩
  · rintro ⟨rest, hrest⟩
    exact ⟨String.ofList rest, String.toList_injective (by simp [hrest])⟩

instance (s : String) : Decidable (IsRooted s) := decidable_of_iff _ isRooted_iff.symm

/-- A text without its final slashes. -/
def withoutFinalSlashes (s : String) : String :=
  String.ofList (Text.dropEndWhile isSlash s.toList)

/-- Nothing but slashes is missing at the end. -/
theorem exists_slashes_eq (s : String) : ∃ n, s = withoutFinalSlashes s ++ slashes n := by
  obtain ⟨run, hsplit, hrun⟩ := Text.exists_run_dropEndWhile isSlash s.toList
  have hslashes : run = List.replicate run.length '/' := by
    refine List.eq_replicate_iff.2 ⟨rfl, fun c hc => ?_⟩
    simpa [isSlash] using List.all_eq_true.1 hrun c hc
  refine ⟨run.length, String.toList_injective ?_⟩
  rw [String.toList_append, withoutFinalSlashes, slashes, String.toList_ofList, String.toList_ofList,
    ← hslashes]
  exact hsplit

theorem withoutFinalSlashes_append_slashes (s : String) (n : Nat) :
    withoutFinalSlashes (s ++ slashes n) = withoutFinalSlashes s := by
  rw [withoutFinalSlashes, withoutFinalSlashes, String.toList_append, slashes, String.toList_ofList]
  congr 1
  induction n with
  | zero => rw [List.replicate_zero, List.append_nil]
  | succ n ih =>
      rw [List.replicate_succ', ← List.append_assoc]
      exact (List.rdropWhile_concat_pos isSlash _ _ rfl).trans ih

/-- What is left begins as the whole text does. -/
theorem isRooted_of_withoutFinalSlashes {s : String} (hrooted : IsRooted (withoutFinalSlashes s)) :
    IsRooted s := by
  obtain ⟨n, hsplit⟩ := exists_slashes_eq s
  obtain ⟨rest, hrest⟩ := hrooted
  exact ⟨rest ++ slashes n, by rw [← String.append_assoc, ← hrest, ← hsplit]⟩

/-- When the slash in front was dropped, everything was. -/
theorem withoutFinalSlashes_eq_empty {s : String} (hrooted : IsRooted s)
    (hbare : ¬IsRooted (withoutFinalSlashes s)) : withoutFinalSlashes s = "" := by
  obtain ⟨n, hsplit⟩ := exists_slashes_eq s
  by_contra hsome
  obtain ⟨c, rest, hkept⟩ := List.exists_cons_of_ne_nil (String.toList_eq_nil_iff.not.2 hsome)
  rw [isRooted_iff, hkept] at hbare
  rw [isRooted_iff, hsplit, String.toList_append, hkept] at hrooted
  exact hbare hrooted

/-! ## The normal form -/

theorem normalPrefix_of_isRooted {s : String} (hrooted : IsRooted (withoutFinalSlashes s)) :
    normalPrefix s = withoutFinalSlashes s := by
  obtain ⟨rest, hrest⟩ := List.head?_eq_some_iff.1 (isRooted_iff.1 hrooted)
  rw [withoutFinalSlashes, String.toList_ofList] at hrest
  rw [normalPrefix, withoutFinalSlashes, hrest]
  rfl

theorem normalPrefix_of_not_isRooted {s : String} (hbare : ¬IsRooted (withoutFinalSlashes s)) :
    normalPrefix s = "/" ++ withoutFinalSlashes s := by
  rw [isRooted_iff, withoutFinalSlashes, String.toList_ofList] at hbare
  refine String.toList_injective ?_
  rw [normalPrefix, withoutFinalSlashes, String.toList_append, String.toList_ofList,
    String.toList_ofList]
  split
  · next hnone => rw [hnone]; rfl
  · next rest hslash =>
      rw [hslash] at hbare
      exact absurd rfl hbare
  · rw [String.toList_ofList]
    rfl

theorem normalPrefix_append_slashes (s : String) (n : Nat) :
    normalPrefix (s ++ slashes n) = normalPrefix s := by
  by_cases hrooted : IsRooted (withoutFinalSlashes s)
  · rw [normalPrefix_of_isRooted hrooted, normalPrefix_of_isRooted,
      withoutFinalSlashes_append_slashes]
    rwa [withoutFinalSlashes_append_slashes]
  · rw [normalPrefix_of_not_isRooted hrooted, normalPrefix_of_not_isRooted,
      withoutFinalSlashes_append_slashes]
    rwa [withoutFinalSlashes_append_slashes]

/-- A text in normal form is its own normal form. -/
theorem normalPrefix_of_isNormal {s : String} (hnormal : isNormal s.toList = true) :
    normalPrefix s = s := by
  simp only [isNormal, Bool.or_eq_true, Bool.and_eq_true, decide_eq_true_eq] at hnormal
  rcases hnormal with hroot | ⟨hhead, hlast⟩
  · have hslash : s = "/" := String.toList_injective hroot
    rw [hslash]
    rfl
  · have hkept : withoutFinalSlashes s = s := by
      rw [withoutFinalSlashes, ← String.toList_inj, String.toList_ofList]
      refine List.rdropWhile_eq_self_iff.2 fun hsome hslash => hlast ?_
      rw [List.getLast?_eq_some_getLast hsome]
      simpa [isSlash] using hslash
    have hrooted : IsRooted (withoutFinalSlashes s) := by
      rw [hkept]
      exact isRooted_iff.2 hhead
    rw [normalPrefix_of_isRooted hrooted, hkept]

theorem normalPrefix_idempotent (s : String) : normalPrefix (normalPrefix s) = normalPrefix s :=
  normalPrefix_of_isNormal (isNormal_normalPrefix s)

/-- A leading slash may be missing. -/
theorem normalPrefix_slash_append {s : String} (hbare : ¬IsRooted s) :
    normalPrefix ("/" ++ s) = normalPrefix s := by
  have hform := normalPrefix_of_not_isRooted (s := s) fun hrooted =>
    hbare (isRooted_of_withoutFinalSlashes hrooted)
  obtain ⟨n, hsplit⟩ := exists_slashes_eq s
  calc normalPrefix ("/" ++ s)
      = normalPrefix ("/" ++ withoutFinalSlashes s ++ slashes n) := by
        rw [String.append_assoc, ← hsplit]
    _ = normalPrefix (normalPrefix s) := by rw [normalPrefix_append_slashes, hform]
    _ = normalPrefix s := normalPrefix_idempotent s

namespace PathPrefix

/-- The spellings of a prefix: with any number of slashes behind it, and without the one in front. -/
inductive Spelled (p : PathPrefix) : String → Prop
  | whole (n : Nat) : Spelled p (p.text ++ slashes n)
  | bare {s : String} (n : Nat) (hbare : ¬IsRooted s) (hwhole : "/" ++ s = p.text ++ slashes n) :
      Spelled p s

theorem ofString_text (p : PathPrefix) : ofString p.text = p :=
  ext_text (normalPrefix_of_isNormal p.normal)

theorem ofString_append_slashes (s : String) (n : Nat) : ofString (s ++ slashes n) = ofString s :=
  ext_text (normalPrefix_append_slashes s n)

theorem ofString_slash_append {s : String} (hbare : ¬IsRooted s) : ofString ("/" ++ s) = ofString s :=
  ext_text (normalPrefix_slash_append hbare)

/-- Every text spells the prefix that it names. -/
theorem spelled_ofString (s : String) : (ofString s).Spelled s := by
  obtain ⟨n, hsplit⟩ := exists_slashes_eq s
  by_cases hleft : IsRooted (withoutFinalSlashes s)
  · have htext : (ofString s).text = withoutFinalSlashes s := normalPrefix_of_isRooted hleft
    rw [← htext] at hsplit
    have hwhole := Spelled.whole (p := ofString s) n
    rwa [← hsplit] at hwhole
  · have htext : (ofString s).text = "/" ++ withoutFinalSlashes s := normalPrefix_of_not_isRooted hleft
    by_cases hrooted : IsRooted s
    · -- Of a text of slashes only nothing is left, and its prefix is one of its own slashes.
      rw [withoutFinalSlashes_eq_empty hrooted hleft] at hsplit htext
      cases n with
      | zero =>
          obtain ⟨rest, hrest⟩ := hrooted
          simp [hsplit] at hrest
      | succ n =>
          have hwhole := Spelled.whole (p := ofString s) n
          rwa [htext, String.append_empty, ← slashes_succ, ← String.empty_append (s := slashes (n + 1)),
            ← hsplit] at hwhole
    · refine .bare n hrooted ?_
      rw [htext, String.append_assoc, ← hsplit]

/-- A text names the prefix that it spells, and no other one. -/
theorem ofString_eq_iff {p : PathPrefix} {s : String} : ofString s = p ↔ p.Spelled s := by
  constructor
  · rintro rfl
    exact spelled_ofString s
  · rintro (⟨n⟩ | ⟨n, hbare, hwhole⟩)
    · rw [ofString_append_slashes, ofString_text]
    · rw [← ofString_slash_append hbare, hwhole, ofString_append_slashes, ofString_text]

end PathPrefix

/-! ## Segments -/

/-- What stands between the slashes of a text. -/
def segments (s : String) : List (List Char) := s.toList.splitOn '/'

theorem segments_append_slash (s rest : String) :
    segments (s ++ "/" ++ rest) = segments s ++ segments rest := by
  have htext : (s ++ "/" ++ rest).toList = s.toList ++ '/' :: rest.toList := by simp
  rw [segments, htext]
  exact List.splitOn_append_cons_self _ _

theorem intercalate_append {α : Type} (mark : List α) {xs ys : List (List α)} (hxs : xs ≠ [])
    (hys : ys ≠ []) :
    mark.intercalate (xs ++ ys) = mark.intercalate xs ++ mark ++ mark.intercalate ys := by
  induction xs with
  | nil => exact absurd rfl hxs
  | cons x xs ih =>
      cases xs with
      | nil => rw [List.singleton_append, List.intercalate_cons_of_ne_nil hys, List.intercalate_singleton]
      | cons next xs =>
          rw [List.cons_append, List.intercalate_cons_of_ne_nil (List.append_ne_nil_of_left_ne_nil
            (List.cons_ne_nil next xs) ys), ih (List.cons_ne_nil next xs),
            List.intercalate_cons_of_ne_nil (List.cons_ne_nil next xs)]
          simp only [List.append_assoc]

/-- One text goes on behind another with a slash, or is the same, when its segments go on. -/
theorem segments_isPrefix_iff {s t : String} :
    segments s <+: segments t ↔ t = s ∨ ∃ rest, t = s ++ "/" ++ rest := by
  constructor
  · rintro ⟨more, hmore⟩
    have hs : ['/'].intercalate (segments s) = s.toList := List.intercalate_splitOn '/'
    have ht : ['/'].intercalate (segments t) = t.toList := List.intercalate_splitOn '/'
    by_cases hnone : more = []
    · rw [← hmore, hnone, List.append_nil, hs] at ht
      exact .inl (String.toList_injective ht.symm)
    · have hsome : segments s ≠ [] := List.splitOn_ne_nil '/' s.toList
      rw [← hmore, intercalate_append _ hsome hnone, hs] at ht
      refine .inr ⟨String.ofList (['/'].intercalate more), String.toList_injective ?_⟩
      rw [← ht]
      simp
  · rintro (rfl | ⟨rest, rfl⟩)
    · exact List.prefix_rfl
    · exact ⟨segments rest, (segments_append_slash s rest).symm⟩

namespace PathPrefix

/-- A prefix that does not take every path matches the paths whose segments begin with its own. -/
theorem covers_iff_segments {p : PathPrefix} (hsome : p.text ≠ "/") {path : String} :
    p.Covers path ↔ segments p.text <+: segments path := by
  rw [segments_isPrefix_iff, Covers, or_iff_right hsome]

/-- A path that is covered from some prefix on is covered by the prefixes that cover that one. -/
theorem Covers.trans {p q : PathPrefix} {path : String} (hpq : p.Covers q.text)
    (hq : q.Covers path) : p.Covers path := by
  by_cases hroot : p.text = "/"
  · exact .inl hroot
  · have hother : q.text ≠ "/" := by
      intro hslash
      obtain ⟨first, hfirst⟩ := p.exists_text_eq
      rcases hpq with hp | hp | ⟨rest, hp⟩
      · exact hroot hp
      · exact hroot (hp.symm.trans hslash)
      · have hlist := congrArg String.toList (hslash.symm.trans hp)
        simp [hfirst] at hlist
    rw [covers_iff_segments hroot] at hpq ⊢
    exact hpq.trans ((covers_iff_segments hother).1 hq)

/-- A prefix that takes every path takes one leading slash off it, if there is one. -/
theorem strip?_eq_some_iff_of_isCatchAll {p : PathPrefix} (hall : p.isCatchAll = true)
    {path rest : String} :
    p.strip? path = some rest ↔ path = "/" ++ rest ∨ ¬IsRooted path ∧ rest = path := by
  by_cases hrooted : IsRooted path
  · obtain ⟨left, rfl⟩ := hrooted
    have hinside : IsRooted ("/" ++ left) := ⟨left, rfl⟩
    rw [strip?_slash_append hall]
    simp [hinside, String.append_right_inj]
  · have hwhole : p.strip? path = some path := by
      rw [strip?, if_pos hall]
      split
      · next left hleft =>
          refine absurd ?_ hrooted
          rw [isRooted_iff, hleft]
          rfl
      · rfl
    rw [hwhole]
    constructor
    · rintro ⟨⟩
      exact .inr ⟨hrooted, rfl⟩
    · rintro (hslash | ⟨-, rfl⟩)
      · exact absurd ⟨rest, hslash⟩ hrooted
      · rfl

/-- The prefix that a text names begins with a slash and ends with one only if it is nothing else. It is
named by its spellings, itself among them, and by no other text, so that slashes at the end and a missing
slash in front make no difference. Unless it takes every path it strips a path to what follows the slash
behind it, or to nothing from the prefix itself; the paths it matches are those whose segments begin with
its own, and none that goes on inside of a segment. A prefix that takes every path takes one slash off the
front, if there is one. Whatever is matched by a prefix that goes on with more segments is matched. -/
theorem ofString_strip?_exact (s : String) :
    let p : PathPrefix := ofString s
    IsRooted p.text ∧
    (∀ start, p.text = start ++ "/" → p.text = "/") ∧
    ofString p.text = p ∧
    (∀ n, ofString (s ++ slashes n) = p) ∧
    (¬IsRooted s → ofString ("/" ++ s) = p) ∧
    (∀ q, q = p ↔ q.Spelled s) ∧
    (p.text ≠ "/" → ∀ path,
      (∀ rest, p.strip? path = some rest ↔ path = p.text ∧ rest = "" ∨ path = p.text ++ "/" ++ rest) ∧
      (p.accepts path = true ↔ segments p.text <+: segments path)) ∧
    (p.text = "/" → ∀ path, p.accepts path = true ∧
      ∀ rest, p.strip? path = some rest ↔ path = "/" ++ rest ∨ ¬IsRooted path ∧ rest = path) ∧
    ∀ t path, p.Covers (ofString t).text → (ofString t).accepts path = true →
      p.accepts path = true := by
  intro p
  refine ⟨p.exists_text_eq, ?_, ofString_text p, ofString_append_slashes s, ofString_slash_append,
    fun q => eq_comm.trans ofString_eq_iff, ?_, ?_, ?_⟩
  · intro start hslash
    by_contra hroot
    exact text_ne_append_slash (isCatchAll_eq_false_iff.2 hroot) start hslash
  · intro hroot path
    refine ⟨fun rest => strip?_eq_some_iff (isCatchAll_eq_false_iff.2 hroot), ?_⟩
    rw [accepts, isSome_strip?_iff, covers_iff_segments hroot]
  · intro hroot path
    have hall := isCatchAll_iff.2 hroot
    exact ⟨isSome_strip?_of_isCatchAll hall path, fun rest => strip?_eq_some_iff_of_isCatchAll hall⟩
  · intro t path hextends hmatched
    rw [accepts, isSome_strip?_iff] at hmatched ⊢
    exact hextends.trans hmatched

/-- An empty segment inside stays, and so does a letter of more than one byte. -/
theorem ofString_strip?_exact_inner :
    let p := ofString "é//x///"
    p.text = "/é//x" ∧ ofString "/é//x///" = p ∧ p.strip? "/é//x/1/" = some "1/" ∧
      p.accepts "/é//xy" = false ∧ (ofString "/é//x/y/").accepts "/é//x/y/1" = true ∧
      p.accepts "/é//x/y/1" = true := by
  intro p
  have htext : p.text = "/é//x" := by decide
  obtain ⟨-, -, -, -, hbare, -, hstrip, -, hlonger⟩ := ofString_strip?_exact "é//x///"
  have hroot : p.text ≠ "/" := by decide
  have hmatched : (ofString "/é//x/y/").accepts "/é//x/y/1" = true := by decide
  have hextends : p.Covers (ofString "/é//x/y/").text := .inr (.inr ⟨"y", by decide⟩)
  refine ⟨htext, hbare (by decide), ?_, ?_, hmatched, hlonger _ _ hextends hmatched⟩
  · exact ((hstrip hroot "/é//x/1/").1 "1/").2 (.inr (by decide))
  · rw [Bool.eq_false_iff, ne_eq, (hstrip hroot "/é//xy").2, htext]
    decide +kernel

end PathPrefix

end Gatehouse.Route
