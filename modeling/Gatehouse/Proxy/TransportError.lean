import Gatehouse.Proxy.Rejection

/-!
# Failures of an exchange

An error may have a cause, and the cause a cause of its own. An exchange counts as timed out when an
error in this chain says so. An input or output error that carries another error is transparent: its
cause is not the error it carries but the cause of that one.
-/

namespace Gatehouse.Proxy

/-- What input or output was interrupted by. -/
inductive IoKind where
  | timedOut
  | connectionRefused
  | connectionReset
  | connectionAborted
  | notConnected
  | brokenPipe
  | unexpectedEnd
  | wouldBlock
  | interrupted
  | other
deriving DecidableEq, Repr

/-- An error of an exchange. -/
inductive TransportError where
  /-- An error without a cause. -/
  | plain
  | causedBy (cause : TransportError)
  /-- An input or output error. -/
  | io (kind : IoKind)
  /-- An input or output error that carries another error. -/
  | ioCarrying (kind : IoKind) (carried : TransportError)
deriving DecidableEq, Repr, Inhabited

namespace TransportError

def cause? : TransportError → Option TransportError
  | plain => none
  | causedBy cause => some cause
  | io _ => none
  | ioCarrying _ carried => carried.cause?

/-- An error and the chain of its causes. -/
def chain : TransportError → List TransportError
  | plain => [plain]
  | causedBy cause => causedBy cause :: chain cause
  | io kind => [io kind]
  | ioCarrying kind carried => ioCarrying kind carried :: (chain carried).tail

/-- Whether an error itself says that time ran out. -/
def isTimeout : TransportError → Bool
  | io kind => kind = .timedOut
  | ioCarrying kind _ => kind = .timedOut
  | _ => false

/-- How the gateway answers when an exchange fails. -/
def rejection (e : TransportError) : Rejection :=
  if e.chain.any isTimeout then .timeout else .unavailable

/-- The chain goes from each error to its cause. -/
theorem chain_eq (e : TransportError) :
    e.chain = e :: (e.cause?.map chain).getD [] := by
  induction e with
  | plain => rfl
  | causedBy cause _ => rfl
  | io kind => rfl
  | ioCarrying kind carried ih => rw [chain, ih, List.tail_cons, cause?]

theorem rejection_eq_timeout_iff_any {e : TransportError} :
    e.rejection = .timeout ↔ e.chain.any isTimeout = true := by
  rw [rejection]
  cases e.chain.any isTimeout <;> simp

/-- There is no third way to answer. -/
theorem rejection_eq_timeout_or_unavailable (e : TransportError) :
    e.rejection = .timeout ∨ e.rejection = .unavailable := by
  rw [rejection]
  split
  · exact .inl rfl
  · exact .inr rfl

end TransportError

end Gatehouse.Proxy
