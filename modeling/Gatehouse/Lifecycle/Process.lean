import Gatehouse.Lifecycle.Shutdown

/-!
# A process and its signal

The task that waits for a signal is started first. Then the server is built and its address bound, and
only when it listens does it subscribe to the shutdown. A signal may come at any time in between.
-/

namespace Gatehouse.Lifecycle

/-- How far a process has come. -/
inductive Phase where
  | starting
  /-- The server waits for the shutdown by the waiter of this number. -/
  | serving (waiter : Nat)
  | stopped
  /-- The server could not be built, or the gateway could not listen. -/
  | failed
deriving DecidableEq, Repr

/-- A process with its coordinator, of which it holds handle 0; gate 0 opens with the signal. -/
structure Process where
  coordinator : Coordinator
  phase : Phase
deriving DecidableEq, Repr

/-- What can happen next, to the process or in it. -/
inductive Move where
  | listen
  | fail
  | signal
  | poll
deriving DecidableEq, Repr

namespace Process

/-- A process that has just started the task that waits for the signal. -/
def launch : Process := ⟨(({} : Coordinator).step (.triggerOn 0)).1, .starting⟩

def move (p : Process) : Move → Process
  | .listen =>
    match p.phase, p.coordinator.step (.subscribe 0) with
    | .starting, (coordinator, .waiter number) => ⟨coordinator, .serving number⟩
    | _, _ => p
  | .fail => if p.phase = .starting then { p with phase := .failed } else p
  | .signal => { p with coordinator := (p.coordinator.step (.openGate 0)).1 }
  | .poll =>
    match p.phase with
    | .serving number =>
      match p.coordinator.step (.poll number) with
      | (coordinator, .released) => ⟨coordinator, .stopped⟩
      | (coordinator, _) => { p with coordinator }
    | _ => p

def run (p : Process) : List Move → Process
  | [] => p
  | m :: moves => (p.move m).run moves

end Process

end Gatehouse.Lifecycle
