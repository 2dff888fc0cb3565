import Gatehouse.Proxy.Clock
import Gatehouse.Proxy.TransportError

/-!
# Exchanges under a deadline

An exchange pauses for some time, once or more often, and then ends with a result or an error. Several
exchanges, one after the other, are one exchange. One deadline covers all its pauses: the exchange is
waited for pause by pause, and each time before the deadline is looked at.
-/

namespace Gatehouse.Proxy

/-- An exchange with a service. Times are in milliseconds. -/
inductive Exchange (α : Type) where
  | ends (pauses : List Nat) (outcome : Except TransportError α)
  /-- An exchange that does not end. -/
  | stalls

namespace Exchange

variable {α β : Type}

/-- Turn what an exchange ends with into something else. -/
def mapOutcome (f : Except TransportError α → Except TransportError β) : Exchange α → Exchange β
  | ends pauses outcome => ends pauses (f outcome)
  | stalls => stalls

/-- Go on with another exchange. The pauses of the first one are over by then. -/
def andThen (next : α → Exchange β) : Exchange α → Exchange β
  | ends pauses (.ok a) =>
    match next a with
    | ends more outcome => ends (pauses ++ more) outcome
    | stalls => stalls
  | ends pauses (.error e) => ends pauses (.error e)
  | stalls => stalls

/-- The time of all pauses together. -/
def duration (pauses : List Nat) : Nat := pauses.foldr (· + ·) 0

theorem duration_append (pauses more : List Nat) :
    duration (pauses ++ more) = duration pauses + duration more := by
  induction pauses with
  | nil => exact (Nat.zero_add _).symm
  | cons pause pauses ih =>
      change pause + duration (pauses ++ more) = pause + duration pauses + duration more
      rw [ih, Nat.add_assoc]

/-- What is made of the end of a wait. -/
def answerTo : Option (Except TransportError α) → Except Rejection α
  | some outcome => outcome.mapError TransportError.rejection
  | none => .error .timeout

/-- The result of an exchange that has to end before a deadline is over, as a clock tells it. The exchange
begins at the instant zero. -/
def withinBy (clock : Clock) (deadline : Nat) : Exchange α → Except Rejection α
  | ends pauses outcome => answerTo (clock.wait deadline outcome 0 0 pauses)
  | stalls => answerTo none

/-- The result of an exchange that has to end before a deadline is over, by the simulated clock. -/
def within (deadline : Nat) (exchange : Exchange α) : Except Rejection α :=
  exchange.withinBy .exact deadline

end Exchange

end Gatehouse.Proxy
