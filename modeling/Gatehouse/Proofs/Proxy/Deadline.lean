import Gatehouse.Proofs.Proxy.Waiting

/-!
# One deadline for a whole exchange

`Awaited` tells instant by instant how an exchange is waited for: each time the exchange is looked at
first and the deadline second, and in between the wait sleeps, never past the end of a pause or the
deadline. Whenever it wakes up, and whatever clock it goes by, it ends as the executable wait does. By
the simulated clock the exchange comes to its end exactly if all its pauses together fit into the
deadline. So nothing but their sum counts, and an end that is reached under one deadline is reached under
every longer one.
-/

namespace Gatehouse.Proxy

namespace Exchange

open Clock (Fits)

variable {α : Type}

/-! ## Waiting -/

/-- Waiting for an exchange at the instant `now`, when the first of the pauses that are left began at
`since` and the task has found `count` pauses over in a row. The wait ends with what the exchange ends
with, or with nothing when the deadline is over first. -/
inductive Awaited (clock : Clock) (deadline : Nat) (outcome : Except TransportError α) :
    Nat → Nat → Nat → List Nat → Option (Except TransportError α) → Prop where
  /-- An exchange without a pause left has ended, and the deadline is not looked at. -/
  | ended (now count since : Nat) : Awaited clock deadline outcome now count since [] (some outcome)
  /-- A pause that is over is followed by the next one at once, as long as the task may go on. -/
  | nextPause {now count since pause : Nat} {pauses : List Nat}
      {verdict : Option (Except TransportError α)} (hover : clock.ring (since + pause) ≤ now)
      (hallowed : clock.allows (count + 1) = true)
      (hrest : Awaited clock deadline outcome now (count + 1) now pauses verdict) :
      Awaited clock deadline outcome now count since (pause :: pauses) verdict
  /-- The exchange pauses, or may not go on, and the deadline is over. -/
  | elapsed {now count since pause : Nat} {pauses : List Nat}
      (hpauses : now < clock.ring (since + pause) ∨ clock.allows (count + 1) = false)
      (hlate : clock.ring deadline ≤ now) :
      Awaited clock deadline outcome now count since (pause :: pauses) none
  /-- The task may not go on, and yields before the deadline. -/
  | yields {now count since pause : Nat} {pauses : List Nat}
      {verdict : Option (Except TransportError α)} (hspent : clock.allows (count + 1) = false)
      (hearly : now < clock.ring deadline)
      (hrest : Awaited clock deadline outcome now 0 since (pause :: pauses) verdict) :
      Awaited clock deadline outcome now count since (pause :: pauses) verdict
  /-- The exchange pauses, and the wait goes on at an instant that misses neither the end of the pause
  nor the deadline. -/
  | sleeps {now later count since pause : Nat} {pauses : List Nat}
      {verdict : Option (Except TransportError α)} (hlater : now < later)
      (hpause : later ≤ clock.ring (since + pause)) (hdeadline : later ≤ clock.ring deadline)
      (hrest : Awaited clock deadline outcome later 0 since (pause :: pauses) verdict) :
      Awaited clock deadline outcome now count since (pause :: pauses) verdict

/-- What holds all along a wait. `row` counts the pauses found over at the instant `since`, however often
the task has yielded at it. -/
structure Waits (clock : Clock) (deadline now count since row : Nat) (pauses : List Nat) : Prop where
  tick : clock.tick ∣ since
  since_le : since ≤ now
  now_le : now ≤ clock.ring deadline
  /-- The pause that began at `since` is not over before `now`. -/
  inPause : ∀ pause, pauses.head? = some pause → now ≤ since + clock.ring pause
  /-- A task that has waited in a pause has found none over since. -/
  fresh : since < now → count = 0
  /-- At the instant of the deadline nothing has yielded. -/
  row_eq : now = since → now = clock.ring deadline → count = row ∧ clock.allows row = true

section

variable {clock : Clock} {deadline now count since row pause : Nat}
  {outcome : Except TransportError α} {pauses : List Nat}
  {verdict : Option (Except TransportError α)}

theorem waits_start (htick : clock.tick ∣ now) (hnow : now ≤ clock.ring deadline)
    (hcount : now = clock.ring deadline → clock.allows count = true) (pauses : List Nat) :
    Waits clock deadline now count now count pauses where
  tick := htick
  since_le := Nat.le_refl now
  now_le := hnow
  inPause _ _ := Nat.le_add_right now _
  fresh hlater := absurd hlater (Nat.lt_irrefl now)
  row_eq _ hlast := ⟨rfl, hcount hlast⟩

/-- The wait did not sleep past the end of a pause that is over. -/
theorem Waits.now_eq (hwaits : Waits clock deadline now count since row (pause :: pauses))
    (hover : clock.ring (since + pause) ≤ now) : now = since + clock.ring pause := by
  rw [clock.ring_add hwaits.tick] at hover
  exact Nat.le_antisymm (hwaits.inPause pause rfl) hover

/-- Behind a pause that is over the wait is at the start of the next one. -/
theorem Waits.next (hwaits : Waits clock deadline now count since row (pause :: pauses))
    (hover : clock.ring (since + pause) ≤ now) (hallowed : clock.allows (count + 1) = true) :
    Waits clock deadline now (count + 1) now (if pause = 0 then row + 1 else 1) pauses where
  tick := hwaits.now_eq hover ▸ Nat.dvd_add hwaits.tick (clock.dvd_ring pause)
  since_le := Nat.le_refl now
  now_le := hwaits.now_le
  inPause _ _ := Nat.le_add_right now _
  fresh hlater := absurd hlater (Nat.lt_irrefl now)
  row_eq _ hlast := by
    have hinstant := hwaits.now_eq hover
    split
    · next hnone =>
        rw [hnone, Clock.ring_zero, Nat.add_zero] at hinstant
        obtain ⟨hrow, -⟩ := hwaits.row_eq hinstant hlast
        exact ⟨congrArg (· + 1) hrow, hrow ▸ hallowed⟩
    · next hsome =>
        have htakes := clock.le_ring pause
        rw [hwaits.fresh (by omega)]
        exact ⟨rfl, clock.allows_one⟩

/-- Nothing fits any more when the exchange cannot go on and the deadline is over. -/
theorem Waits.not_fits (hwaits : Waits clock deadline now count since row (pause :: pauses))
    (hpauses : now < clock.ring (since + pause) ∨ clock.allows (count + 1) = false)
    (hlate : clock.ring deadline ≤ now) :
    ¬clock.Fits deadline since row (pause :: pauses) := by
  have hlast : now = clock.ring deadline := Nat.le_antisymm hwaits.now_le hlate
  rcases Nat.eq_zero_or_pos pause with rfl | hpause
  · have hinstant : now = since :=
      Nat.le_antisymm (by simpa using hwaits.inPause 0 rfl) hwaits.since_le
    rw [Clock.fits_zero_cons]
    rcases hpauses with hlonger | hspent
    · rw [Nat.add_zero, clock.ring_of_dvd hwaits.tick] at hlonger
      omega
    · rw [(hwaits.row_eq hinstant hlast).1] at hspent
      exact Clock.not_fits_of_spent (hinstant ▸ hlate) hspent
  · have hlonger : now < since + clock.ring pause := by
      rcases hpauses with hlonger | hspent
      · rwa [clock.ring_add hwaits.tick] at hlonger
      · -- A budget is never spent in the middle of a pause.
        have hsince : ¬since < now := fun hlater => by
          rw [hwaits.fresh hlater, clock.allows_one] at hspent
          cases hspent
        have htakes := clock.le_ring pause
        omega
    rw [Clock.fits_cons_of_pos hpause]
    exact Clock.not_fits_of_lt (by omega)

/-- However often the wait wakes up, it ends as the pauses that are left fit. -/
theorem Awaited.verdict_eq (hawaited : Awaited clock deadline outcome now count since pauses verdict)
    (hwaits : Waits clock deadline now count since row pauses) :
    verdict = if clock.Fits deadline since row pauses then some outcome else none := by
  induction hawaited generalizing row with
  | ended now count since =>
      have hfits : clock.Fits deadline since row [] := by
        rcases Nat.eq_or_lt_of_le (Nat.le_trans hwaits.since_le hwaits.now_le) with hlast | hearly
        · have hinstant : now = since :=
            Nat.le_antisymm (hlast ▸ hwaits.now_le) hwaits.since_le
          exact .inr ⟨hlast, (hwaits.row_eq hinstant (hinstant.trans hlast)).2⟩
        · exact .inl hearly
      exact (if_pos hfits).symm
  | @nextPause now count since pause pauses verdict hover hallowed hrest ih =>
      have hinstant := hwaits.now_eq hover
      rw [ih (hwaits.next hover hallowed)]
      rcases Nat.eq_zero_or_pos pause with rfl | hpause
      · rw [Clock.ring_zero, Nat.add_zero] at hinstant
        simp only [Clock.fits_zero_cons, hinstant, if_true]
      · simp only [Clock.fits_cons_of_pos hpause, hinstant, if_neg (Nat.pos_iff_ne_zero.1 hpause)]
  | elapsed hpauses hlate => exact (if_neg (hwaits.not_fits hpauses hlate)).symm
  | yields hspent hearly hrest ih =>
      exact ih ⟨hwaits.tick, hwaits.since_le, hwaits.now_le, hwaits.inPause, fun _ => rfl,
        fun _ hlast => absurd hlast (Nat.ne_of_lt hearly)⟩
  | @sleeps now later count since pause pauses verdict hlater hpause hdeadline hrest ih =>
      have hlonger : since < later := Nat.lt_of_le_of_lt hwaits.since_le hlater
      rw [clock.ring_add hwaits.tick] at hpause
      refine ih ⟨hwaits.tick, Nat.le_of_lt hlonger, hdeadline, ?_, fun _ => rfl,
        fun hinstant => absurd hinstant (Nat.ne_of_gt hlonger)⟩
      rintro _ ⟨⟩
      exact hpause

/-- A wait at the beginning of a pause comes to an end. -/
theorem exists_awaited (outcome : Except TransportError α) (pauses : List Nat)
    (htick : clock.tick ∣ now) (hnow : now ≤ clock.ring deadline) (count : Nat) :
    ∃ verdict, Awaited clock deadline outcome now count now pauses verdict := by
  induction pauses generalizing now count with
  | nil => exact ⟨_, .ended now count now⟩
  | cons pause pauses ih =>
      have hring := clock.ring_add htick pause
      rcases Nat.eq_zero_or_pos pause with rfl | hpause
      · have hover : clock.ring (now + 0) ≤ now := Nat.le_of_eq (clock.ring_of_dvd htick)
        cases hallowed : clock.allows (count + 1) with
        | true =>
            obtain ⟨verdict, hrest⟩ := ih htick hnow (count + 1)
            exact ⟨verdict, .nextPause hover hallowed hrest⟩
        | false =>
            rcases Nat.eq_or_lt_of_le hnow with hlast | hearly
            · exact ⟨none, .elapsed (.inr hallowed) (Nat.le_of_eq hlast.symm)⟩
            · obtain ⟨verdict, hrest⟩ := ih htick hnow 1
              exact ⟨verdict, .yields hallowed hearly (.nextPause hover clock.allows_one hrest)⟩
      · have hlonger : now < clock.ring (now + pause) := by
          have := clock.le_ring pause
          omega
        by_cases hintime : clock.ring (now + pause) ≤ clock.ring deadline
        · obtain ⟨verdict, hrest⟩ := ih (clock.dvd_ring _) hintime 1
          have hover : Awaited clock deadline outcome (clock.ring (now + pause)) 0 now
              (pause :: pauses) verdict :=
            .nextPause (Nat.le_refl _) clock.allows_one hrest
          exact ⟨verdict, .sleeps hlonger (Nat.le_refl _) hintime hover⟩
        · have hlate : clock.ring deadline < clock.ring (now + pause) := Nat.lt_of_not_le hintime
          rcases Nat.eq_or_lt_of_le hnow with hlast | hearly
          · exact ⟨none, .elapsed (.inl hlonger) (Nat.le_of_eq hlast.symm)⟩
          · have hover : Awaited clock deadline outcome (clock.ring deadline) 0 now
                (pause :: pauses) none :=
              .elapsed (.inl hlate) (Nat.le_refl _)
            exact ⟨none, .sleeps hearly (Nat.le_of_lt hlate) (Nat.le_refl _) hover⟩

end

/-- From the start of an exchange there is one end of the wait, by any clock, and it is the one that the
executable wait finds. -/
theorem awaited_iff {clock : Clock} {deadline : Nat} {outcome : Except TransportError α}
    {pauses : List Nat} {verdict : Option (Except TransportError α)} :
    Awaited clock deadline outcome 0 0 0 pauses verdict ↔
      verdict = clock.wait deadline outcome 0 0 pauses := by
  have honly {reached : Option (Except TransportError α)}
      (hawaited : Awaited clock deadline outcome 0 0 0 pauses reached) :
      reached = clock.wait deadline outcome 0 0 pauses := by
    rw [clock.wait_start]
    exact hawaited.verdict_eq (waits_start (Nat.dvd_zero _) (Nat.zero_le _)
      (fun _ => Clock.allows_of_le (Nat.zero_le 1) clock.allows_one) pauses)
  constructor
  · exact honly
  · rintro rfl
    have hends : ∃ reached, Awaited clock deadline outcome 0 0 0 pauses reached :=
      exists_awaited outcome pauses (Nat.dvd_zero _) (Nat.zero_le _) 0
    obtain ⟨reached, hawaited⟩ := hends
    rw [← honly hawaited]
    exact hawaited

/-- By the simulated clock the sum of the pauses tells the end of the wait. -/
theorem awaited_exact_iff {deadline : Nat} {outcome : Except TransportError α} {pauses : List Nat}
    {verdict : Option (Except TransportError α)} :
    Awaited .exact deadline outcome 0 0 0 pauses verdict ↔
      verdict = if duration pauses ≤ deadline then some outcome else none := by
  rw [awaited_iff, Clock.wait_start]
  simp only [Clock.fits_exact_iff]

theorem awaited_exact_some_iff {deadline : Nat} {outcome : Except TransportError α}
    {pauses : List Nat} :
    Awaited .exact deadline outcome 0 0 0 pauses (some outcome) ↔ duration pauses ≤ deadline := by
  rw [awaited_exact_iff]
  split
  · next hfits => exact ⟨fun _ => hfits, fun _ => rfl⟩
  · next hlong => exact ⟨nofun, fun hfits => absurd hfits hlong⟩

/-! ## Answers -/

/-- The answer under a deadline is the one to the end of the wait. -/
theorem within_eq_iff_awaited {deadline : Nat} {pauses : List Nat}
    {outcome : Except TransportError α} {answer : Except Rejection α} :
    (ends pauses outcome).within deadline = answer ↔
      ∃ verdict, Awaited .exact deadline outcome 0 0 0 pauses verdict ∧
        answerTo verdict = answer := by
  simp only [awaited_iff, exists_eq_left]
  rfl

/-- Exchanges with pauses of the same sum and the same end have the same answer. -/
theorem within_ends_congr (deadline : Nat) {pauses other : List Nat}
    (outcome : Except TransportError α) (hsum : duration other = duration pauses) :
    (ends other outcome).within deadline = (ends pauses outcome).within deadline := by
  rw [within_ends, within_ends, hsum]

/-- By every clock the answer is what the exchange ends with, or what its error counts as, exactly if the
pauses fit, and otherwise that time ran out. -/
theorem withinBy_ends (clock : Clock) (deadline : Nat) (pauses : List Nat)
    (outcome : Except TransportError α) :
    (ends pauses outcome).withinBy clock deadline =
      if clock.Fits deadline 0 0 pauses then outcome.mapError TransportError.rejection
      else .error .timeout := by
  rw [withinBy, clock.wait_start]
  split
  · rfl
  · rfl

theorem duration_filter_pos (pauses : List Nat) :
    duration (pauses.filter fun pause => 0 < pause) = duration pauses := by
  induction pauses with
  | nil => rfl
  | cons pause pauses ih =>
      rw [List.filter_cons, duration_cons]
      split
      · rw [duration_cons, ih]
      · next hnone =>
          have hzero : pause = 0 := Nat.eq_zero_of_not_pos fun hpos => hnone (decide_eq_true hpos)
          rw [ih, hzero, Nat.zero_add]

/-- Where the pauses and the deadline are whole ticks, and a pause of no time is none, every clock tells
what the simulated one does. -/
theorem withinBy_of_dvd {clock : Clock} {deadline : Nat} {pauses : List Nat}
    (hdeadline : clock.tick ∣ deadline) (hpauses : ∀ pause ∈ pauses, clock.tick ∣ pause)
    (outcome : Except TransportError α) :
    (ends (pauses.filter fun pause => 0 < pause) outcome).withinBy clock deadline =
      (ends pauses outcome).within deadline := by
  have hlasting : ∀ pause ∈ pauses.filter fun pause => 0 < pause, 0 < pause ∧ clock.tick ∣ pause := by
    intro pause hpause
    obtain ⟨hmem, hpos⟩ := List.mem_filter.1 hpause
    exact ⟨of_decide_eq_true hpos, hpauses pause hmem⟩
  rw [withinBy_ends, ← within_ends_congr deadline outcome (duration_filter_pos pauses), within_ends]
  simp only [Clock.fits_iff_of_dvd hdeadline hlasting]

/-! ## The whole exchange -/

/-- By the simulated clock, whenever the wait for an exchange wakes up, it ends with what the exchange ends
with exactly if all the pauses together fit into the deadline, and with nothing otherwise; the answer is
the value, or what the error counts as, in the one case, and that time ran out in the other, whatever the
error would have been. How the sum falls into pauses, or into two exchanges of which the second one goes
on from the first, has no part in it, and what the exchange ends with under one deadline it ends with
under every longer one.

By any other clock, too, it is the executable wait that is carried out instant by instant, and what is
reached under one deadline is reached under every longer one. The pauses count with the time up to their
tick then, and at the instant of the deadline only as many of them as may be found over in a row; where
they take whole ticks, and a pause of no time is none, nothing differs from the simulated clock. -/
theorem within_one_deadline (deadline : Nat) (pauses : List Nat)
    (outcome : Except TransportError α) :
    (∀ verdict, Awaited .exact deadline outcome 0 0 0 pauses verdict ↔
      verdict = if duration pauses ≤ deadline then some outcome else none) ∧
    (∀ answer, (ends pauses outcome).within deadline = answer ↔
      ∃ verdict, Awaited .exact deadline outcome 0 0 0 pauses verdict ∧
        answerTo verdict = answer) ∧
    (∀ other, duration other = duration pauses →
      (ends other outcome).within deadline = (ends pauses outcome).within deadline) ∧
    (∀ (β : Type) (first more : List Nat) (b : β),
      duration first + duration more = duration pauses →
      ((ends first (.ok b)).andThen fun _ => ends more outcome).within deadline =
        (ends pauses outcome).within deadline) ∧
    (∀ longer, deadline ≤ longer → Awaited .exact deadline outcome 0 0 0 pauses (some outcome) →
      Awaited .exact longer outcome 0 0 0 pauses (some outcome) ∧
        (ends pauses outcome).within longer = (ends pauses outcome).within deadline) ∧
    ∀ clock : Clock,
      (∀ verdict, Awaited clock deadline outcome 0 0 0 pauses verdict ↔
        verdict = clock.wait deadline outcome 0 0 pauses) ∧
      ((ends pauses outcome).withinBy clock deadline =
        if clock.roundedDuration pauses < clock.ring deadline ∨
            clock.roundedDuration pauses = clock.ring deadline ∧
              clock.allows (Clock.lastRow 0 pauses) = true then
          outcome.mapError TransportError.rejection
        else .error .timeout) ∧
      (∀ longer, deadline ≤ longer → clock.wait deadline outcome 0 0 pauses = some outcome →
        clock.wait longer outcome 0 0 pauses = some outcome) ∧
      (clock.tick ∣ deadline → (∀ pause ∈ pauses, clock.tick ∣ pause) →
        (ends (pauses.filter fun pause => 0 < pause) outcome).withinBy clock deadline =
          (ends pauses outcome).within deadline) := by
  refine ⟨fun verdict => awaited_exact_iff, fun answer => within_eq_iff_awaited,
    fun other => within_ends_congr deadline outcome, ?_, ?_, fun clock =>
      ⟨fun verdict => awaited_iff, ?_, ?_, fun hdeadline hpauses =>
        withinBy_of_dvd hdeadline hpauses outcome⟩⟩
  · intro β first more b hsum
    change (ends (first ++ more) outcome).within deadline = _
    apply within_ends_congr
    rw [duration_append, hsum]
  · intro longer hlonger hawaited
    have hfits : duration pauses ≤ deadline := awaited_exact_some_iff.1 hawaited
    have hstill : duration pauses ≤ longer := Nat.le_trans hfits hlonger
    refine ⟨awaited_exact_some_iff.2 hstill, ?_⟩
    rw [within_ends, within_ends, if_pos hfits, if_pos hstill]
  · rw [withinBy_ends]
    simp only [Fits, Nat.zero_add]
  · intro longer hlonger hreached
    rw [clock.wait_start] at hreached ⊢
    split at hreached
    · next hfits => exact if_pos (hfits.of_le hlonger)
    · cases hreached

/-- Three pauses, one of them of no time at all, that end at the very instant of the deadline. By a clock
with a tick of ten, two pauses of four take twenty; and by one that lets a task find 128 timers rung in a
row, 129 pauses of no time are not over at the instant at which they began, unless they are none. -/
theorem within_one_deadline_instant :
    let outcome : Except TransportError String := .ok "done"
    Awaited .exact 10 outcome 0 0 0 [4, 0, 6] (some outcome) ∧
      Awaited .exact 9 outcome 0 0 0 [4, 0, 6] none ∧
      (ends [10] outcome).within 10 = (ends [4, 0, 6] outcome).within 10 ∧
      ((ends [7] (.ok 3)).andThen fun _ => ends [3] outcome).within 10 =
        (ends [4, 0, 6] outcome).within 10 ∧
      (ends [4, 0, 6] outcome).within 25 = (ends [4, 0, 6] outcome).within 10 ∧
      (ends [4, 4] outcome).within 10 = .ok "done" ∧
      (ends [4, 4] outcome).withinBy ⟨10, some 128, by decide, by decide⟩ 10 = .error .timeout ∧
      (ends (List.replicate 128 0) outcome).withinBy ⟨1, some 128, by decide, by decide⟩ 0 =
        .ok "done" ∧
      (ends (List.replicate 129 0) outcome).withinBy ⟨1, some 128, by decide, by decide⟩ 0 =
        .error .timeout ∧
      (ends [30, 50] outcome).withinBy ⟨10, some 128, by decide, by decide⟩ 80 =
        (ends (30 :: 50 :: List.replicate 129 0) outcome).within 80 := by
  intro outcome
  obtain ⟨hends, -, hsum, hparts, hlonger, -⟩ := within_one_deadline 10 [4, 0, 6] outcome
  have hended := (hends (some outcome)).2 rfl
  have helapsed := ((within_one_deadline 9 [4, 0, 6] outcome).1 none).2 rfl
  have hbudgeted (pauses : List Nat) :=
    ((within_one_deadline 0 pauses outcome).2.2.2.2.2 ⟨1, some 128, by decide, by decide⟩).2.1
  have hrounded :=
    ((within_one_deadline 10 [4, 4] outcome).2.2.2.2.2 ⟨10, some 128, by decide, by decide⟩).2.1
  have hwhole :=
    ((within_one_deadline 80 (30 :: 50 :: List.replicate 129 0) outcome).2.2.2.2.2
      ⟨10, some 128, by decide, by decide⟩).2.2.2
  refine ⟨hended, helapsed, hsum [10] rfl, hparts Nat [7] [3] 3 rfl,
    (hlonger 25 (by omega) hended).2, rfl, hrounded, ?_, ?_, hwhole (by decide) (by decide +kernel)⟩
  · rw [hbudgeted]
    exact if_pos (by decide +kernel)
  · rw [hbudgeted]
    exact if_neg (by decide +kernel)

end Exchange

end Gatehouse.Proxy
