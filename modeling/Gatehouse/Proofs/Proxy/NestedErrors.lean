import Gatehouse.Proxy.TransportError

/-!
# Timeouts in nested errors

An error may wrap its cause, and an input or output error may carry another error, to any depth. The
chain of causes goes through an error that is carried without stopping at it. So a timeout counts where
it is the whole error and where it is wrapped, however deep; where it is carried it does not count.
-/

namespace Gatehouse.Proxy

namespace TransportError

/-- An error and everything in it: what it wraps or carries, and what is in that. -/
inductive Holds : TransportError → TransportError → Prop where
  | self (e : TransportError) : Holds e e
  | wrapped {cause d : TransportError} (hcause : Holds cause d) : Holds (.causedBy cause) d
  | carried {other d : TransportError} (kind : IoKind) (hother : Holds other d) :
      Holds (.ioCarrying kind other) d

namespace Holds

variable {e d : TransportError}

theorem trans {inner : TransportError} (houter : e.Holds d) (hinner : d.Holds inner) :
    e.Holds inner := by
  induction houter with
  | self e => exact hinner
  | wrapped _ ih => exact .wrapped (ih hinner)
  | carried kind _ ih => exact .carried kind (ih hinner)

/-- What is in an error is the whole of it, or wrapped, or carried. -/
theorem place (hholds : e.Holds d) :
    e = d ∨ e.Holds (.causedBy d) ∨ ∃ kind, e.Holds (.ioCarrying kind d) := by
  induction hholds with
  | self e => exact .inl rfl
  | wrapped _ ih =>
      rcases ih with rfl | hwrapped | ⟨kind, hcarried⟩
      · exact .inr (.inl (.self _))
      · exact .inr (.inl (.wrapped hwrapped))
      · exact .inr (.inr ⟨kind, .wrapped hcarried⟩)
  | carried kind _ ih =>
      rcases ih with rfl | hwrapped | ⟨inner, hcarried⟩
      · exact .inr (.inr ⟨kind, .self _⟩)
      · exact .inr (.inl (.carried kind hwrapped))
      · exact .inr (.inr ⟨inner, .carried kind hcarried⟩)

end Holds

variable {e d : TransportError}

theorem chain_eq_cons_tail (e : TransportError) : e.chain = e :: e.chain.tail := by
  cases e <;> rfl

/-- The causes of an error are the errors that are wrapped somewhere in it. -/
theorem mem_tail_chain_iff : d ∈ e.chain.tail ↔ e.Holds (.causedBy d) := by
  induction e with
  | plain => exact iff_of_false List.not_mem_nil (by rintro ⟨⟩)
  | causedBy cause ih =>
      rw [chain, List.tail_cons, chain_eq_cons_tail, List.mem_cons, ih]
      constructor
      · rintro (rfl | hholds)
        · exact .self _
        · exact .wrapped hholds
      · intro hholds
        cases hholds with
        | self => exact .inl rfl
        | wrapped hcause => exact .inr hcause
  | io kind => exact iff_of_false List.not_mem_nil (by rintro ⟨⟩)
  | ioCarrying kind other ih =>
      -- The error that is carried is no member: the chain goes on with the causes of that one.
      rw [chain, List.tail_cons, ih]
      constructor
      · intro hholds
        exact .carried kind hholds
      · intro hholds
        cases hholds with
        | carried _ hother => exact hother

theorem mem_chain_iff_holds : d ∈ e.chain ↔ e = d ∨ e.Holds (.causedBy d) := by
  rw [chain_eq_cons_tail, List.mem_cons, mem_tail_chain_iff, eq_comm]

/-- An error counts as running out of time when a timeout is the whole error or is wrapped somewhere in
it. -/
theorem rejection_eq_timeout_iff_holds :
    e.rejection = .timeout ↔ ∃ d, d.isTimeout = true ∧ (e = d ∨ e.Holds (.causedBy d)) := by
  rw [rejection_eq_timeout_iff_any, List.any_eq_true]
  simp only [mem_chain_iff_holds, and_comm]

/-- An error of any depth counts as running out of time exactly when a timeout is the whole error or is
wrapped somewhere in it, and as a service out of reach otherwise. As long as no timeout is carried by an
input or output error, this is the same as that there is one anywhere. -/
theorem rejection_of_nested (e : TransportError) :
    (e.rejection = .timeout ↔ ∃ d, d.isTimeout = true ∧ (e = d ∨ e.Holds (.causedBy d))) ∧
      (e.rejection ≠ .timeout → e.rejection = .unavailable) ∧
      ((∀ kind d, e.Holds (.ioCarrying kind d) → d.isTimeout = false) →
        (e.rejection = .timeout ↔ ∃ d, d.isTimeout = true ∧ e.Holds d)) := by
  refine ⟨rejection_eq_timeout_iff_holds, (rejection_eq_timeout_or_unavailable e).resolve_left,
    fun hcarried => ?_⟩
  rw [rejection_eq_timeout_iff_holds]
  constructor
  · rintro ⟨d, htimeout, rfl | hwrapped⟩
    · exact ⟨e, htimeout, .self e⟩
    · exact ⟨d, htimeout, hwrapped.trans (.wrapped (.self d))⟩
  · rintro ⟨d, htimeout, hholds⟩
    refine ⟨d, htimeout, ?_⟩
    rcases hholds.place with hwhole | hwrapped | ⟨kind, hholds⟩
    · exact .inl hwhole
    · exact .inr hwrapped
    · rw [hcarried kind d hholds] at htimeout
      cases htimeout

/-- A timeout that is wrapped, inside an error that another one carries. -/
theorem rejection_of_nested_wrapped :
    let e : TransportError := .causedBy (.ioCarrying .other (.causedBy (.io .timedOut)))
    (∀ kind d, e.Holds (.ioCarrying kind d) → d.isTimeout = false) ∧
      (∃ d, d.isTimeout = true ∧ e.Holds d) ∧ e.rejection = .timeout := by
  have hcarried (kind : IoKind) (d : TransportError)
      (hholds : Holds (.causedBy (.ioCarrying .other (.causedBy (.io .timedOut))))
        (.ioCarrying kind d)) : d.isTimeout = false := by
    cases hholds with
    | wrapped hcause =>
        cases hcause with
        | self => rfl
        | carried _ hother =>
            cases hother with
            | wrapped hinner => cases hinner
  have hsome : ∃ d, d.isTimeout = true ∧
      Holds (.causedBy (.ioCarrying .other (.causedBy (.io .timedOut)))) d :=
    ⟨.io .timedOut, rfl, .wrapped (.carried .other (.wrapped (.self _)))⟩
  exact ⟨hcarried, hsome, ((rejection_of_nested _).2.2 hcarried).2 hsome⟩

/-- A timeout that an input or output error carries is in that error, and the error counts as a service
out of reach all the same. -/
theorem not_timeout_of_carried :
    (TransportError.ioCarrying .other (.io .timedOut)).Holds (.io .timedOut) ∧
      (TransportError.io .timedOut).isTimeout = true ∧
      (TransportError.ioCarrying .other (.io .timedOut)).rejection = .unavailable ∧
      ¬∀ e : TransportError, e.rejection = .timeout ↔ ∃ d, d.isTimeout = true ∧ e.Holds d := by
  have hholds : (TransportError.ioCarrying .other (.io .timedOut)).Holds (.io .timedOut) :=
    .carried .other (.self _)
  have hrejection : (TransportError.ioCarrying .other (.io .timedOut)).rejection = .unavailable := rfl
  refine ⟨hholds, rfl, hrejection, fun hall => ?_⟩
  have htimeout := (hall _).2 ⟨_, rfl, hholds⟩
  rw [hrejection] at htimeout
  cases htimeout

end TransportError

end Gatehouse.Proxy
