import Gatehouse.Lifecycle.Process
import Gatehouse.Proofs.Lifecycle.Waiters

/-!
# Shutdowns that nobody hears

A request reaches the waiters of its time only. A subscription that comes after it starts behind its
message and waits for the next one, so that a process whose signal comes before its server
subscribes goes on serving: the task that waited for the signal has ended, and nothing asks for the
shutdown again.
-/

namespace Gatehouse.Lifecycle

open Coordinator (Subscribes fresh)

/-! ## Where the moves of a process lead -/

namespace Process

/-- The signal has come, and the server has not subscribed. -/
def signalled : Process := launch.move .signal

/-- The server has subscribed, and the signal has not come. -/
def listening : Process := launch.move .listen

/-- The signal has come after the server subscribed. -/
def asked : Process := listening.move .signal

/-- The signal had come when the server subscribed. -/
def unheard : Process := signalled.move .listen

theorem phase_run_of_stopped {p : Process} (hphase : p.phase = .stopped) (moves : List Move) :
    (p.run moves).phase = .stopped := by
  induction moves generalizing p with
  | nil => exact hphase
  | cons m moves ih =>
      refine ih ?_
      cases m <;> simp [move, hphase]

theorem phase_run_of_failed {p : Process} (hphase : p.phase = .failed) (moves : List Move) :
    (p.run moves).phase = .failed := by
  induction moves generalizing p with
  | nil => exact hphase
  | cons m moves ih =>
      refine ih ?_
      cases m <;> simp [move, hphase]

/-- A server that has not heard the signal serves on, whatever happens. -/
theorem run_unheard (moves : List Move) : unheard.run moves = unheard := by
  induction moves with
  | nil => rfl
  | cons m moves ih => cases m <;> exact ih

theorem phase_run_signalled_ne_stopped (moves : List Move) :
    (signalled.run moves).phase ≠ .stopped := by
  induction moves with
  | nil => nofun
  | cons m moves ih =>
      cases m with
      | listen =>
          rw [run, ← unheard, run_unheard]
          nofun
      | fail =>
          rw [run, phase_run_of_failed rfl]
          nofun
      | signal => exact ih
      | poll => exact ih

theorem phase_run_asked_iff {moves : List Move} :
    (asked.run moves).phase = .stopped ↔ [Move.poll].Sublist moves := by
  rw [List.singleton_sublist]
  induction moves with
  | nil => exact ⟨nofun, nofun⟩
  | cons m moves ih =>
      cases m with
      | poll => exact ⟨fun _ => List.mem_cons_self, fun _ => phase_run_of_stopped rfl moves⟩
      | _ =>
          rw [List.mem_cons, or_iff_right nofun]
          exact ih

theorem phase_run_listening_iff {moves : List Move} :
    (listening.run moves).phase = .stopped ↔ [Move.signal, Move.poll].Sublist moves := by
  induction moves with
  | nil => exact ⟨nofun, nofun⟩
  | cons m moves ih =>
      cases m with
      | signal =>
          rw [run, ← asked, phase_run_asked_iff, List.cons_sublist_cons]
      | _ =>
          rw [List.sublist_cons_iff, or_iff_left (by rintro ⟨rest, h, -⟩; cases h)]
          exact ih

/-- A process stops when its server has subscribed before the signal comes and is polled after it. -/
theorem phase_run_launch_iff {moves : List Move} :
    (launch.run moves).phase = .stopped ↔
      ∃ early rest, moves = early ++ .listen :: rest ∧ (∀ m ∈ early, m = .poll) ∧
        [Move.signal, Move.poll].Sublist rest := by
  induction moves with
  | nil => simp [run, launch]
  | cons m moves ih =>
      have hfirst (hother : m ≠ .poll) :
          (∃ early rest, m :: moves = early ++ .listen :: rest ∧ (∀ m ∈ early, m = .poll) ∧
            [Move.signal, Move.poll].Sublist rest) ↔
            m = .listen ∧ [Move.signal, Move.poll].Sublist moves := by
        constructor
        · rintro ⟨early, rest, hsplit, hearly, hrest⟩
          cases early with
          | nil =>
              cases hsplit
              exact ⟨rfl, hrest⟩
          | cons first early =>
              cases hsplit
              exact absurd (hearly m List.mem_cons_self) hother
        · rintro ⟨rfl, hrest⟩
          exact ⟨[], moves, rfl, nofun, hrest⟩
      cases m with
      | listen =>
          rw [hfirst nofun, run, ← listening, phase_run_listening_iff]
          exact (and_iff_right rfl).symm
      | fail =>
          rw [hfirst nofun, run, phase_run_of_failed rfl]
          exact ⟨nofun, nofun⟩
      | signal =>
          rw [hfirst nofun, run, ← signalled]
          exact ⟨fun h => absurd h (phase_run_signalled_ne_stopped moves), nofun⟩
      | poll =>
          refine ih.trans ⟨?_, ?_⟩
          · rintro ⟨early, rest, rfl, hearly, hrest⟩
            exact ⟨.poll :: early, rest, rfl, List.forall_mem_cons.2 ⟨rfl, hearly⟩, hrest⟩
          · rintro ⟨early, rest, hsplit, hearly, hrest⟩
            cases early with
            | nil => cases hsplit
            | cons first early =>
                cases hsplit
                exact ⟨early, rest, rfl, (List.forall_mem_cons.1 hearly).2, hrest⟩

end Process

/-! ## Who hears -/

/-- Whom a shutdown reaches. In every run of a new coordinator a poll releases a waiter exactly if a
request came after its subscription or nobody is left to make one; the requests before it count for
nothing. So a process stops exactly if nothing but idle polls came before its server subscribed, and
then the signal, and then a poll. -/
theorem shutdown_reaches_iff (steps : List Step) (w : Nat) (moves : List Move) :
    (∀ before after, Subscribes steps w before after →
      ((fresh.run steps).Releases w ↔
        Requested ((fresh.answers steps).drop before.length) ∨ (fresh.run steps).Abandoned)) ∧
    ((Process.launch.run moves).phase = .stopped ↔
      ∃ early rest, moves = early ++ .listen :: rest ∧ (∀ m ∈ early, m = .poll) ∧
        [Move.signal, Move.poll].Sublist rest) :=
  ⟨fun _ _ hsub => hsub.releases_iff, Process.phase_run_launch_iff⟩

/-- It is not so that whoever is polled once a shutdown was asked for is released, even with a
handle still held: a gate opens, and a waiter that subscribes behind it waits on. A process whose
signal comes before its server subscribes serves on in the same way. -/
theorem not_released_of_late_subscription :
    (¬∀ (steps : List Step) (w : Nat), Requested (fresh.answers steps) →
      ¬(fresh.run steps).Abandoned → ((fresh.run steps).poll w).2 ≠ .noSuchWaiter →
        (fresh.run steps).Releases w) ∧
    (Process.launch.run [.signal, .listen, .poll]).phase = .serving 0 := by
  refine ⟨fun hall => ?_, rfl⟩
  have hheld : (fresh.run [.triggerOn 0, .openGate 0, .subscribe 0]).holds 0 = true := by decide
  have hreleases := hall _ 0 (by decide) (Coordinator.not_abandoned_of_holds hheld) (by decide)
  exact absurd hreleases (by decide)

end Gatehouse.Lifecycle
