/-!
# Clocks

How long a task waits is told by a clock. Its timers ring at ticks only, and a task may not go on for
ever: when it has found a number of timers rung, one after the other, it has to yield before it may look
at the next one. A timer that is set to the present instant has rung at once.
-/

namespace Gatehouse.Proxy

/-- How the time is kept for a task. -/
structure Clock where
  /-- Timers ring at the multiples of a tick. -/
  tick : Nat
  /-- How many timers in a row a task may find rung. Without a budget there is no end to them. -/
  budget : Option Nat
  tick_pos : 0 < tick
  budget_ne_zero : budget ≠ some 0

namespace Clock

/-- A simulated clock: every instant is a tick, and no task has to yield. -/
def exact : Clock := ⟨1, none, Nat.one_pos, nofun⟩

/-- When a timer rings that is set to an instant: at the next tick, or at once. -/
def ring (clock : Clock) (instant : Nat) : Nat :=
  (instant + (clock.tick - 1)) / clock.tick * clock.tick

/-- Whether a task may find so many timers rung in a row. -/
def allows (clock : Clock) (count : Nat) : Bool := clock.budget.all (count ≤ ·)

variable {α : Type}

/-- Wait through pauses under a deadline, at the instant `now`, after `count` timers in a row were found
rung. The wait ends with an outcome behind the last pause, or with nothing when the deadline is over
first. The deadline is looked at whenever the task cannot go on. -/
def wait (clock : Clock) (deadline : Nat) (outcome : α) (now count : Nat) : List Nat → Option α
  | [] => some outcome
  | pause :: pauses =>
    let rung := clock.ring (now + pause)
    if rung ≤ now then
      if clock.allows (count + 1) then clock.wait deadline outcome now (count + 1) pauses
      else if clock.ring deadline ≤ now then none
      -- The task has yielded, and finds the same timer rung when it is run again.
      else clock.wait deadline outcome now 1 pauses
    else if clock.ring deadline < rung then none
    else clock.wait deadline outcome rung 1 pauses

/-! ## Ticks -/

theorem le_ring (clock : Clock) (instant : Nat) : instant ≤ clock.ring instant := by
  have hrest := Nat.mod_add_div (instant + (clock.tick - 1)) clock.tick
  have hless := Nat.mod_lt (instant + (clock.tick - 1)) clock.tick_pos
  rw [Nat.mul_comm] at hrest
  rw [ring]
  omega

/-- Timers that are set later do not ring earlier. -/
theorem ring_le_ring (clock : Clock) {earlier later : Nat} (hle : earlier ≤ later) :
    clock.ring earlier ≤ clock.ring later :=
  Nat.mul_le_mul_right _ (Nat.div_le_div_right (Nat.add_le_add_right hle _))

@[simp] theorem ring_exact (instant : Nat) : exact.ring instant = instant := by
  rw [ring]
  exact (Nat.mul_one _).trans (Nat.div_one _)

@[simp] theorem ring_zero (clock : Clock) : clock.ring 0 = 0 := by
  have hless : 0 + (clock.tick - 1) < clock.tick := by
    have := clock.tick_pos
    omega
  rw [ring, Nat.div_eq_of_lt hless, Nat.zero_mul]

/-- From a tick on, a pause lasts up to a tick, too. -/
theorem ring_add (clock : Clock) {now : Nat} (hnow : clock.tick ∣ now) (pause : Nat) :
    clock.ring (now + pause) = now + clock.ring pause := by
  obtain ⟨ticks, rfl⟩ := hnow
  rw [ring, ring, Nat.add_assoc, Nat.mul_add_div clock.tick_pos, Nat.add_mul, Nat.mul_comm ticks]

theorem dvd_ring (clock : Clock) (instant : Nat) : clock.tick ∣ clock.ring instant :=
  Nat.dvd_mul_left _ _

/-- At a tick a timer rings at once. -/
theorem ring_of_dvd (clock : Clock) {now : Nat} (hnow : clock.tick ∣ now) : clock.ring now = now := by
  have hring := clock.ring_add hnow 0
  rwa [ring_zero] at hring

/-! ## Budgets -/

@[simp] theorem allows_exact (count : Nat) : exact.allows count = true := rfl

/-- Whoever may find a number of timers rung may find fewer. -/
theorem allows_of_le {clock : Clock} {fewer count : Nat} (hle : fewer ≤ count)
    (hallowed : clock.allows count = true) : clock.allows fewer = true := by
  rw [allows, Option.all_eq_true] at hallowed ⊢
  intro budget hbudget
  have hfits := hallowed budget hbudget
  simp only [decide_eq_true_eq] at hfits ⊢
  exact Nat.le_trans hle hfits

/-- One timer may always be found rung. -/
theorem allows_one (clock : Clock) : clock.allows 1 = true := by
  rw [allows, Option.all_eq_true]
  rintro budget hbudget
  refine decide_eq_true (Nat.one_le_iff_ne_zero.2 ?_)
  rintro rfl
  exact clock.budget_ne_zero hbudget

end Clock

end Gatehouse.Proxy
