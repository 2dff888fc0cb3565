import Gatehouse.Proofs.Token.Acceptance

/-!
# Lists of accepted algorithms

A verifier gives one answer to every text unless its list names the algorithm of its keys and nothing
else. A list that names it several times is as good as one that names it once.
-/

namespace Gatehouse.Token

namespace Verifier

variable {verifier : Verifier}

theorem isOpen_iff :
    verifier.isOpen = true ↔
      verifier.allowed ≠ [] ∧ ∀ a ∈ verifier.allowed, a = verifier.keys.algorithm := by
  simp [isOpen]

/-- A list that names the algorithm of the keys and nothing else repeats it. -/
theorem isOpen_iff_replicate :
    verifier.isOpen = true ↔
      ∃ n, verifier.allowed = List.replicate (n + 1) verifier.keys.algorithm := by
  rw [isOpen_iff]
  constructor
  · rintro ⟨hsome, hall⟩
    obtain ⟨n, hlength⟩ := Nat.exists_eq_succ_of_ne_zero (mt List.length_eq_zero_iff.1 hsome)
    exact ⟨n, List.eq_replicate_iff.2 ⟨hlength, hall⟩⟩
  · rintro ⟨n, hallowed⟩
    obtain ⟨hlength, hall⟩ := List.eq_replicate_iff.1 hallowed
    refine ⟨fun hnone => ?_, hall⟩
    rw [hnone] at hlength
    cases hlength

theorem not_isOpen_iff :
    verifier.isOpen = false ↔
      verifier.allowed = [] ∨ ∃ a ∈ verifier.allowed, a ≠ verifier.keys.algorithm := by
  rw [← Bool.not_eq_true, isOpen_iff, not_and_or, not_not]
  push Not
  rfl

/-! ## Closed verifiers -/

theorem signedPayload_of_not_isOpen (hclosed : verifier.isOpen = false) (token : String) :
    verifier.signedPayload token = .error .algorithm := by
  rw [signedPayload, hclosed]
  rfl

/-- A verifier that is closed says so of every text, before it looks at it. -/
theorem verifyAt_of_not_isOpen (hclosed : verifier.isOpen = false) (token : String) (now : Int64) :
    verifier.verifyAt token now = .error .algorithm :=
  verifyAt_of_signedPayload (signedPayload_of_not_isOpen hclosed token) now

/-! ## Open verifiers -/

/-- The verifier of the same keys and leeway that accepts their algorithm. -/
def own (verifier : Verifier) : Verifier := { ofKeys verifier.keys with leeway := verifier.leeway }

theorem isOpen_own (verifier : Verifier) : verifier.own.isOpen = true :=
  isOpen_iff_replicate.2 ⟨0, rfl⟩

/-- Among the names of algorithms, the one of the keys is accepted. -/
theorem any_allowed_of_isOpen (hopen : verifier.isOpen = true) (name : String) :
    verifier.allowed.any (fun a => a.name = name) = decide (verifier.keys.algorithm.name = name) := by
  obtain ⟨n, hallowed⟩ := isOpen_iff_replicate.1 hopen
  rw [hallowed, List.any_replicate, if_neg (Nat.succ_ne_zero n)]

/-- What an open verifier says of a signature depends on its keys only. -/
theorem signedPayload_of_isOpen (hopen : verifier.isOpen = true) (token : String) :
    verifier.signedPayload token = verifier.own.signedPayload token := by
  have hallowed (name : String) : verifier.own.allowed.any (fun a => a.name = name) =
      verifier.allowed.any (fun a => a.name = name) := by
    rw [any_allowed_of_isOpen hopen, any_allowed_of_isOpen verifier.isOpen_own]
    rfl
  rw [signedPayload, signedPayload, hopen, verifier.isOpen_own]
  simp only [hallowed]
  rfl

theorem verifyAt_of_isOpen (hopen : verifier.isOpen = true) (token : String) (now : Int64) :
    verifier.verifyAt token now = verifier.own.verifyAt token now := by
  rw [verifyAt, verifyAt, claims, claims, signedPayload_of_isOpen hopen]
  rfl

/-- An open verifier finds no three parts in an empty text. -/
theorem verifyAt_empty_of_isOpen (hopen : verifier.isOpen = true) (now : Int64) :
    verifier.verifyAt "" now = .error .malformed := by
  have hparts : Parts.ofToken? "" = none := rfl
  apply verifyAt_of_signedPayload
  rw [signedPayload, hopen, hparts]
  rfl

theorem isOpen_eq_false_iff_refuses :
    verifier.isOpen = false ↔ ∀ token now, verifier.verifyAt token now = .error .algorithm := by
  constructor
  · exact verifyAt_of_not_isOpen
  · intro hrefused
    refine Bool.eq_false_iff.2 fun hopen => ?_
    have hempty := verifyAt_empty_of_isOpen hopen 0
    rw [hrefused] at hempty
    cases hempty

theorem isOpen_iff_answers_as_own :
    verifier.isOpen = true ↔
      ∀ token now, verifier.verifyAt token now = verifier.own.verifyAt token now := by
  constructor
  · exact verifyAt_of_isOpen
  · intro hsame
    refine Bool.of_not_eq_false fun hclosed => ?_
    have hempty := verifyAt_of_not_isOpen hclosed "" 0
    rw [hsame, verifyAt_empty_of_isOpen verifier.isOpen_own] at hempty
    cases hempty

/-- Whatever the keys and the leeway: a verifier refuses every text at every time because of the
algorithm exactly if its list is empty or names another algorithm than the one of the keys, alone or
among others; and it answers every text at every time as the verifier that accepts this one algorithm
does exactly if its list is one or more repetitions of it. -/
theorem verifyAt_of_allowlist (keys : KeySet) (allowed : List Algorithm) (leeway : UInt64) :
    ((∀ token now, verifyAt { keys, allowed, leeway } token now = .error .algorithm) ↔
      allowed = [] ∨ ∃ a ∈ allowed, a ≠ keys.algorithm) ∧
    ((∀ token now, verifyAt { keys, allowed, leeway } token now =
        verifyAt { ofKeys keys with leeway } token now) ↔
      ∃ n, allowed = List.replicate (n + 1) keys.algorithm) := by
  let verifier : Verifier := { keys, allowed, leeway }
  have hcloses : (∀ token now, verifier.verifyAt token now = .error .algorithm) ↔
      allowed = [] ∨ ∃ a ∈ allowed, a ≠ keys.algorithm :=
    isOpen_eq_false_iff_refuses.symm.trans not_isOpen_iff
  have hopens : (∀ token now, verifier.verifyAt token now = verifier.own.verifyAt token now) ↔
      ∃ n, allowed = List.replicate (n + 1) keys.algorithm :=
    isOpen_iff_answers_as_own.symm.trans isOpen_iff_replicate
  exact ⟨hcloses, hopens⟩

end Verifier

end Gatehouse.Token
