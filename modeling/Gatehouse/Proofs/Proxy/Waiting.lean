import Gatehouse.Proxy.Exchange

/-!
# Waiting by any clock

A wait begins at a tick, so that each pause lasts up to a tick, and the sum of the pauses as the clock
rounds them tells whether the last one is over before the deadline. When it is over at the very instant
of the deadline, the budget decides: the pauses that are found over at that instant have to be allowed in
a row. By the simulated clock no pause is rounded and every row is allowed, and the plain sum is left.
-/

namespace Gatehouse.Proxy

namespace Exchange

theorem duration_cons (pause : Nat) (pauses : List Nat) :
    duration (pause :: pauses) = pause + duration pauses := rfl

end Exchange

open Exchange (duration duration_cons)

namespace Clock

/-- The time of all pauses together, each of them up to a tick. -/
def roundedDuration (clock : Clock) (pauses : List Nat) : Nat := duration (pauses.map clock.ring)

theorem roundedDuration_cons (clock : Clock) (pause : Nat) (pauses : List Nat) :
    clock.roundedDuration (pause :: pauses) = clock.ring pause + clock.roundedDuration pauses := rfl

@[simp] theorem roundedDuration_exact (pauses : List Nat) :
    exact.roundedDuration pauses = duration pauses := by
  induction pauses with
  | nil => rfl
  | cons pause pauses ih => rw [roundedDuration_cons, ring_exact, ih, duration_cons]

/-- Pauses of whole ticks are not rounded. -/
theorem roundedDuration_of_dvd (clock : Clock) {pauses : List Nat}
    (hwhole : ∀ pause ∈ pauses, clock.tick ∣ pause) :
    clock.roundedDuration pauses = duration pauses := by
  induction pauses with
  | nil => rfl
  | cons pause pauses ih =>
      rw [roundedDuration_cons, clock.ring_of_dvd (hwhole pause List.mem_cons_self),
        ih fun later hlater => hwhole later (List.mem_cons_of_mem pause hlater), duration_cons]

/-- How many pauses are found over at the last instant, when `count` were at the present one: every
pause that takes time is found over at a new instant. -/
def lastRow : Nat → List Nat → Nat
  | count, [] => count
  | count, pause :: pauses => lastRow (if pause = 0 then count + 1 else 1) pauses

theorem lastRow_zero_cons (count : Nat) (pauses : List Nat) :
    lastRow count (0 :: pauses) = lastRow (count + 1) pauses := rfl

theorem lastRow_cons_of_pos {pause : Nat} (hpause : 0 < pause) (count : Nat) (pauses : List Nat) :
    lastRow count (pause :: pauses) = lastRow 1 pauses := by
  rw [lastRow, if_neg (Nat.pos_iff_ne_zero.1 hpause)]

/-- Pauses of no time stay at the present instant. -/
theorem le_lastRow {clock : Clock} {pauses : List Nat} (hnone : clock.roundedDuration pauses = 0)
    (count : Nat) : count ≤ lastRow count pauses := by
  induction pauses generalizing count with
  | nil => exact Nat.le_refl count
  | cons pause pauses ih =>
      rw [roundedDuration_cons, Nat.add_eq_zero_iff] at hnone
      have hpause : pause = 0 := Nat.le_zero.1 (hnone.1 ▸ clock.le_ring pause)
      rw [hpause, lastRow_zero_cons]
      exact Nat.le_trans (Nat.le_succ count) (ih hnone.2 (count + 1))

/-- Pauses that take time are found over one at a time. -/
theorem lastRow_le_one {count : Nat} {pauses : List Nat} (hcount : count ≤ 1)
    (hpauses : ∀ pause ∈ pauses, 0 < pause) : lastRow count pauses ≤ 1 := by
  induction pauses generalizing count with
  | nil => exact hcount
  | cons pause pauses ih =>
      rw [lastRow_cons_of_pos (hpauses pause List.mem_cons_self)]
      exact ih (Nat.le_refl 1) fun later hlater => hpauses later (List.mem_cons_of_mem pause hlater)

/-! ## The end of a wait -/

/-- Pauses are over in time when the last one is over before the deadline, or at the instant of the
deadline with no more pauses found over at it than the budget allows. -/
def Fits (clock : Clock) (deadline now count : Nat) (pauses : List Nat) : Prop :=
  now + clock.roundedDuration pauses < clock.ring deadline ∨
    now + clock.roundedDuration pauses = clock.ring deadline ∧
      clock.allows (lastRow count pauses) = true

instance (clock : Clock) (deadline now count : Nat) (pauses : List Nat) :
    Decidable (clock.Fits deadline now count pauses) :=
  inferInstanceAs (Decidable (_ ∨ _))

section

variable {clock : Clock} {deadline now count : Nat} {pause : Nat} {pauses : List Nat}

theorem fits_zero_cons :
    clock.Fits deadline now count (0 :: pauses) ↔ clock.Fits deadline now (count + 1) pauses := by
  rw [Fits, Fits, roundedDuration_cons, ring_zero, Nat.zero_add, lastRow_zero_cons]

theorem fits_cons_of_pos (hpause : 0 < pause) :
    clock.Fits deadline now count (pause :: pauses) ↔
      clock.Fits deadline (now + clock.ring pause) 1 pauses := by
  rw [Fits, Fits, roundedDuration_cons, Nat.add_assoc, lastRow_cons_of_pos hpause]

/-- At the instant of the deadline nothing fits any more once the budget is spent. -/
theorem not_fits_of_spent (hlate : clock.ring deadline ≤ now)
    (hspent : clock.allows count = false) : ¬clock.Fits deadline now count pauses := by
  rintro (hearly | ⟨hsame, hallowed⟩)
  · omega
  · have hnone : clock.roundedDuration pauses = 0 := by omega
    rw [allows_of_le (le_lastRow hnone count) hallowed] at hspent
    cases hspent

/-- Nothing fits when the deadline is over before the present pause. -/
theorem not_fits_of_lt (hlate : clock.ring deadline < now) :
    ¬clock.Fits deadline now count pauses := by
  rintro (hearly | ⟨hsame, -⟩)
  · omega
  · omega

/-- Before the deadline it has no part how many pauses were found over. -/
theorem fits_congr_count (hearly : now < clock.ring deadline) (other : Nat) :
    clock.Fits deadline now count pauses ↔ clock.Fits deadline now other pauses := by
  have hrow (hsame : now + clock.roundedDuration pauses = clock.ring deadline) :
      lastRow count pauses = lastRow other pauses := by
    -- A pause that takes time is left, and the row begins anew behind it.
    have hsome : clock.roundedDuration pauses ≠ 0 := by omega
    clear hsame
    induction pauses generalizing count other with
    | nil => exact absurd rfl hsome
    | cons pause pauses ih =>
        rcases Nat.eq_zero_or_pos pause with rfl | hpause
        · rw [roundedDuration_cons, ring_zero, Nat.zero_add] at hsome
          rw [lastRow_zero_cons, lastRow_zero_cons]
          exact ih _ hsome
        · rw [lastRow_cons_of_pos hpause, lastRow_cons_of_pos hpause]
  constructor
  · rintro (hsooner | ⟨hsame, hallowed⟩)
    · exact .inl hsooner
    · exact .inr ⟨hsame, hrow hsame ▸ hallowed⟩
  · rintro (hsooner | ⟨hsame, hallowed⟩)
    · exact .inl hsooner
    · exact .inr ⟨hsame, hrow hsame ▸ hallowed⟩

end

variable {α : Type}

/-- From a tick on, before the deadline or with a budget left, a wait reaches the outcome exactly if the
pauses fit. -/
theorem wait_eq (clock : Clock) {deadline now count : Nat} (outcome : α) (pauses : List Nat)
    (htick : clock.tick ∣ now) (hnow : now ≤ clock.ring deadline)
    (hcount : now = clock.ring deadline → clock.allows count = true) :
    clock.wait deadline outcome now count pauses =
      if clock.Fits deadline now count pauses then some outcome else none := by
  induction pauses generalizing now count with
  | nil =>
      have hfits : clock.Fits deadline now count [] := by
        rcases Nat.eq_or_lt_of_le hnow with hlast | hearly
        · exact .inr ⟨hlast, hcount hlast⟩
        · exact .inl hearly
      rw [wait, if_pos hfits]
  | cons pause pauses ih =>
      rw [wait, clock.ring_add htick]
      rcases Nat.eq_zero_or_pos pause with rfl | hpause
      · rw [ring_zero, Nat.add_zero, if_pos (Nat.le_refl now)]
        simp only [fits_zero_cons]
        split
        · next hallowed => exact ih htick hnow fun _ => hallowed
        · next hspent =>
            split
            · next hlate =>
                exact (if_neg (not_fits_of_spent hlate (Bool.eq_false_iff.2 hspent))).symm
            · next hearly =>
                simp only [fits_congr_count (Nat.lt_of_not_le hearly) 1]
                exact ih htick hnow fun _ => clock.allows_one
      · have hlonger : ¬now + clock.ring pause ≤ now := by
          have := clock.le_ring pause
          omega
        rw [if_neg hlonger]
        simp only [fits_cons_of_pos hpause]
        split
        · next hlate => exact (if_neg (not_fits_of_lt hlate)).symm
        · next hintime =>
            exact ih (Nat.dvd_add htick (clock.dvd_ring pause)) (Nat.le_of_not_lt hintime)
              fun _ => clock.allows_one

/-- From its start a wait reaches the outcome exactly if the pauses fit. -/
theorem wait_start (clock : Clock) (deadline : Nat) (outcome : α) (pauses : List Nat) :
    clock.wait deadline outcome 0 0 pauses =
      if clock.Fits deadline 0 0 pauses then some outcome else none :=
  clock.wait_eq outcome pauses (Nat.dvd_zero _) (Nat.zero_le _) fun _ =>
    allows_of_le (Nat.zero_le 1) clock.allows_one

theorem fits_exact_iff {deadline : Nat} {pauses : List Nat} :
    exact.Fits deadline 0 0 pauses ↔ duration pauses ≤ deadline := by
  rw [Fits, roundedDuration_exact, ring_exact, Nat.zero_add, allows_exact]
  simp only [and_true]
  exact Nat.le_iff_lt_or_eq.symm

/-- A longer deadline leaves room for whatever fits. -/
theorem Fits.of_le {clock : Clock} {deadline longer : Nat} {pauses : List Nat}
    (hlonger : deadline ≤ longer) (hfits : clock.Fits deadline 0 0 pauses) :
    clock.Fits longer 0 0 pauses := by
  have hring := clock.ring_le_ring hlonger
  rcases hfits with hearly | ⟨hsame, hallowed⟩
  · exact .inl (Nat.lt_of_lt_of_le hearly hring)
  · rcases Nat.eq_or_lt_of_le hring with hequal | hmore
    · exact .inr ⟨hsame.trans hequal, hallowed⟩
    · exact .inl (hsame ▸ hmore)

/-- Pauses that take whole ticks fit by every clock exactly if their sum does. -/
theorem fits_iff_of_dvd {clock : Clock} {deadline : Nat} {pauses : List Nat}
    (hdeadline : clock.tick ∣ deadline)
    (hpauses : ∀ pause ∈ pauses, 0 < pause ∧ clock.tick ∣ pause) :
    clock.Fits deadline 0 0 pauses ↔ duration pauses ≤ deadline := by
  have hallowed : clock.allows (lastRow 0 pauses) = true :=
    allows_of_le (lastRow_le_one (Nat.zero_le 1) fun pause hpause => (hpauses pause hpause).1)
      clock.allows_one
  rw [Fits, clock.roundedDuration_of_dvd fun pause hpause => (hpauses pause hpause).2,
    clock.ring_of_dvd hdeadline, hallowed, Nat.zero_add]
  simp only [and_true]
  exact Nat.le_iff_lt_or_eq.symm

end Clock

namespace Exchange

variable {α : Type}

/-- By the simulated clock an exchange that ends is in time exactly if its pauses together fit into the
deadline. -/
theorem within_ends (deadline : Nat) (pauses : List Nat) (outcome : Except TransportError α) :
    (ends pauses outcome).within deadline =
      if duration pauses ≤ deadline then outcome.mapError TransportError.rejection
      else .error .timeout := by
  rw [within, withinBy, Clock.wait_start]
  simp only [Clock.fits_exact_iff]
  split
  · rfl
  · rfl

end Exchange

end Gatehouse.Proxy
