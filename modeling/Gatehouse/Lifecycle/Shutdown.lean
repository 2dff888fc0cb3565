/-!
# Shutting down

A coordinator tells everyone who waits that the gateway is to stop. Handles of it can be copied, and a
task may hold one until a gate opens. Messages go through a channel that keeps only the last one. A
waiter is released by whatever it receives: a message, the news that it missed one, or that nobody is
left to send one.
-/

namespace Gatehouse.Lifecycle

/-- What a receiver finds in the channel. -/
inductive Received where
  | message
  /-- Messages were lost, because the channel keeps only the last one. -/
  | lagged
  /-- No message, and nobody is left to send one. -/
  | closed
  | nothing
deriving DecidableEq, Repr

/-- What a receiver finds that has seen `next` of the `sent` messages. -/
def receive (senders sent next : Nat) : Received :=
  if next + 1 = sent then .message
  else if next + 1 < sent then .lagged
  else if senders = 0 then .closed
  else .nothing

/-- Someone who waits for the shutdown. -/
structure Waiter where
  /-- How many messages had been sent when the waiter subscribed. -/
  next : Nat
  released : Bool := false
deriving DecidableEq, Repr

/-- A coordinator with its handles, the tasks that hold one, and its waiters, all by number. -/
structure Coordinator where
  /-- Whether each handle is still held. -/
  handles : List Bool := [true]
  /-- Whether each gate is still shut, so that its task holds a handle. -/
  gates : List Bool := []
  waiters : List Waiter := []
  /-- How many messages were sent. -/
  sent : Nat := 0
deriving DecidableEq, Repr

/-- What can be done with a coordinator. -/
inductive Step where
  | clone (handle : Nat)
  | drop (handle : Nat)
  | trigger (handle : Nat)
  | subscribe (handle : Nat)
  /-- Start a task that triggers the shutdown when its gate opens. -/
  | triggerOn (handle : Nat)
  | openGate (gate : Nat)
  /-- Cancel the task of a gate. -/
  | abortGate (gate : Nat)
  | poll (waiter : Nat)
deriving DecidableEq, Repr

/-- What a step answers. -/
inductive StepAnswer where
  | handle (number : Nat)
  | waiter (number : Nat)
  | gate (number : Nat)
  | dropped
  | triggered
  | opened
  | aborted
  | released
  | waiting
  | alreadyReleased
  | noSuchHandle
  | noSuchGate
  | noSuchWaiter
deriving DecidableEq, Repr

namespace Coordinator

/-- How many can send: handles and tasks with a shut gate. -/
def senders (c : Coordinator) : Nat := c.handles.count true + c.gates.count true

def holds (c : Coordinator) (handle : Nat) : Bool := c.handles[handle]?.getD false

def isShut (c : Coordinator) (gate : Nat) : Bool := c.gates[gate]?.getD false

/-- What a waiter would find. -/
def found (c : Coordinator) (w : Waiter) : Received := receive c.senders c.sent w.next

/-- Let a waiter look into the channel. -/
def poll (c : Coordinator) (number : Nat) : Coordinator × StepAnswer :=
  match c.waiters[number]? with
  | none => (c, .noSuchWaiter)
  | some w =>
    if w.released then (c, .alreadyReleased)
    else if c.found w = .nothing then (c, .waiting)
    else ({ c with waiters := c.waiters.set number { w with released := true } }, .released)

def step (c : Coordinator) : Step → Coordinator × StepAnswer
  | .clone handle =>
    if c.holds handle then
      ({ c with handles := c.handles ++ [true] }, .handle c.handles.length)
    else (c, .noSuchHandle)
  | .drop handle =>
    if c.holds handle then ({ c with handles := c.handles.set handle false }, .dropped)
    else (c, .noSuchHandle)
  | .trigger handle =>
    if c.holds handle then ({ c with sent := c.sent + 1 }, .triggered) else (c, .noSuchHandle)
  | .subscribe handle =>
    if c.holds handle then
      ({ c with waiters := c.waiters ++ [{ next := c.sent }] }, .waiter c.waiters.length)
    else (c, .noSuchHandle)
  | .triggerOn handle =>
    if c.holds handle then ({ c with gates := c.gates ++ [true] }, .gate c.gates.length)
    else (c, .noSuchHandle)
  | .openGate gate =>
    if c.isShut gate then
      ({ c with gates := c.gates.set gate false, sent := c.sent + 1 }, .opened)
    else (c, .noSuchGate)
  | .abortGate gate =>
    if c.isShut gate then ({ c with gates := c.gates.set gate false }, .aborted)
    else (c, .noSuchGate)
  | .poll waiter => c.poll waiter

def run (c : Coordinator) : List Step → Coordinator
  | [] => c
  | s :: steps => (c.step s).1.run steps

def answers (c : Coordinator) : List Step → List StepAnswer
  | [] => []
  | s :: steps => (c.step s).2 :: (c.step s).1.answers steps

end Coordinator

end Gatehouse.Lifecycle
