import Gatehouse.Lifecycle.Shutdown
import Mathlib.Data.List.Induction

/-!
# Whom a shutdown reaches

A waiter is reached by a request that is made after it subscribed, however much comes in between,
and by the loss of the last sender; by nothing else. `Effect` says once what a step can do. What a
run keeps follows from it: requests are counted, nobody comes back once the coordinator is
abandoned, and a waiter that would be released stays so.
-/

namespace Gatehouse.Lifecycle

/-- Whether an answer tells that the shutdown was asked for, directly or by a gate that opened. -/
def StepAnswer.isRequest : StepAnswer → Bool
  | .triggered => true
  | .opened => true
  | _ => false

/-- Some answer tells that the shutdown was asked for. -/
def Requested (answers : List StepAnswer) : Prop := .triggered ∈ answers ∨ .opened ∈ answers

instance (answers : List StepAnswer) : Decidable (Requested answers) :=
  inferInstanceAs (Decidable (_ ∨ _))

theorem requested_iff {answers : List StepAnswer} :
    Requested answers ↔ 0 < answers.countP StepAnswer.isRequest := by
  rw [List.countP_pos_iff]
  constructor
  · rintro (h | h)
    · exact ⟨_, h, rfl⟩
    · exact ⟨_, h, rfl⟩
  · rintro ⟨answer, hmem, hrequest⟩
    cases answer with
    | triggered => exact .inl hmem
    | opened => exact .inr hmem
    | _ => cases hrequest

/-- A receiver that is not ahead of the channel finds something as soon as there is a message behind
the ones it has seen, or nobody is left to send one. -/
theorem receive_eq_nothing_iff {senders sent next : Nat} (hnext : next ≤ sent) :
    receive senders sent next = .nothing ↔ next = sent ∧ senders ≠ 0 := by
  unfold receive
  split
  · next hmessage => exact ⟨nofun, fun ⟨hsame, _⟩ => by omega⟩
  · split
    · next hlagged => exact ⟨nofun, fun ⟨hsame, _⟩ => by omega⟩
    · split
      · next hclosed => exact ⟨nofun, fun ⟨_, hsender⟩ => absurd hclosed hsender⟩
      · next hsender => exact ⟨fun _ => ⟨by omega, hsender⟩, fun _ => rfl⟩

namespace Coordinator

/-- The coordinator as it is made, with one handle. -/
def fresh : Coordinator := {}

/-- Nobody is left to ask for the shutdown: all handles are dropped, and every gate is open or its
task cancelled. -/
def Abandoned (c : Coordinator) : Prop :=
  (∀ handle, c.holds handle = false) ∧ ∀ gate, c.isShut gate = false

/-- Polling a waiter releases it, unless an earlier poll has done so. -/
def Releases (c : Coordinator) (w : Nat) : Prop :=
  (c.poll w).2 = .released ∨ (c.poll w).2 = .alreadyReleased

instance (c : Coordinator) (w : Nat) : Decidable (c.Releases w) :=
  inferInstanceAs (Decidable (_ ∨ _))

theorem senders_eq_zero_iff {c : Coordinator} : c.senders = 0 ↔ c.Abandoned := by
  have hnone (held : List Bool) : held.count true = 0 ↔ ∀ i : Nat, held[i]?.getD false = false := by
    rw [List.count_eq_zero, List.mem_iff_getElem?, not_exists]
    refine forall_congr' fun i => ?_
    cases held[i]? with
    | none => simp
    | some b => cases b <;> simp
  rw [senders, Nat.add_eq_zero_iff, hnone, hnone]
  rfl

theorem not_abandoned_of_holds {c : Coordinator} {handle : Nat} (hheld : c.holds handle = true) :
    ¬c.Abandoned := fun h => by simp [h.1 handle] at hheld

theorem not_abandoned_of_isShut {c : Coordinator} {gate : Nat} (hshut : c.isShut gate = true) :
    ¬c.Abandoned := fun h => by simp [h.2 gate] at hshut

/-! ## What a step can do -/

/-- All that a step can do. Whatever changes a coordinator needs a sender, the release of a waiter
apart. -/
inductive Effect (c : Coordinator) : Step → Coordinator → StepAnswer → Prop where
  | nothing {s : Step} {answer : StepAnswer} (hquiet : answer.isRequest = false) :
      Effect c s c answer
  /-- Handles and tasks come or go. -/
  | senders {s : Step} {answer : StepAnswer} (handles gates : List Bool) (hsender : ¬c.Abandoned)
      (hquiet : answer.isRequest = false) : Effect c s { c with handles, gates } answer
  | request {s : Step} {answer : StepAnswer} (gates : List Bool) (hsender : ¬c.Abandoned)
      (hrequest : answer.isRequest = true) :
      Effect c s { c with gates, sent := c.sent + 1 } answer
  | subscribe {handle : Nat} (hsender : ¬c.Abandoned) :
      Effect c (.subscribe handle) { c with waiters := c.waiters ++ [{ next := c.sent }] }
        (.waiter c.waiters.length)
  | release {w : Nat} {waiter : Waiter} (hwaiter : c.waiters[w]? = some waiter)
      (hfound : c.found waiter ≠ .nothing) :
      Effect c (.poll w) { c with waiters := c.waiters.set w { waiter with released := true } }
        .released

theorem effect_poll (c : Coordinator) (w : Nat) : Effect c (.poll w) (c.poll w).1 (c.poll w).2 := by
  unfold poll
  split
  · exact .nothing rfl
  · next waiter hwaiter =>
      split
      · exact .nothing rfl
      · split
        · exact .nothing rfl
        · next hfound => exact .release hwaiter hfound

theorem effect_step (c : Coordinator) (s : Step) : Effect c s (c.step s).1 (c.step s).2 := by
  cases s with
  | clone handle =>
      unfold step
      dsimp only
      split
      · next hheld => exact .senders _ c.gates (not_abandoned_of_holds hheld) rfl
      · exact .nothing rfl
  | drop handle =>
      unfold step
      dsimp only
      split
      · next hheld => exact .senders _ c.gates (not_abandoned_of_holds hheld) rfl
      · exact .nothing rfl
  | trigger handle =>
      unfold step
      dsimp only
      split
      · next hheld => exact .request c.gates (not_abandoned_of_holds hheld) rfl
      · exact .nothing rfl
  | subscribe handle =>
      unfold step
      dsimp only
      split
      · next hheld => exact .subscribe (not_abandoned_of_holds hheld)
      · exact .nothing rfl
  | triggerOn handle =>
      unfold step
      dsimp only
      split
      · next hheld => exact .senders c.handles _ (not_abandoned_of_holds hheld) rfl
      · exact .nothing rfl
  | openGate gate =>
      unfold step
      dsimp only
      split
      · next hshut => exact .request _ (not_abandoned_of_isShut hshut) rfl
      · exact .nothing rfl
  | abortGate gate =>
      unfold step
      dsimp only
      split
      · next hshut => exact .senders c.handles _ (not_abandoned_of_isShut hshut) rfl
      · exact .nothing rfl
  | poll w => exact effect_poll c w

/-! ## What a run keeps -/

theorem run_append (c : Coordinator) (steps more : List Step) :
    c.run (steps ++ more) = (c.run steps).run more := by
  induction steps generalizing c with
  | nil => rfl
  | cons s steps ih => exact ih (c.step s).1

theorem answers_append (c : Coordinator) (steps more : List Step) :
    c.answers (steps ++ more) = c.answers steps ++ (c.run steps).answers more := by
  induction steps generalizing c with
  | nil => rfl
  | cons s steps ih => exact congrArg _ (ih (c.step s).1)

theorem length_answers (c : Coordinator) (steps : List Step) :
    (c.answers steps).length = steps.length := by
  induction steps generalizing c with
  | nil => rfl
  | cons s steps ih => exact congrArg Nat.succ (ih (c.step s).1)

theorem sent_step (c : Coordinator) (s : Step) :
    (c.step s).1.sent = c.sent + if (c.step s).2.isRequest then 1 else 0 := by
  have heffect := c.effect_step s
  generalize (c.step s).1 = d, (c.step s).2 = answer at heffect
  cases heffect with
  | nothing hquiet => simp [hquiet]
  | senders handles gates hsender hquiet => simp [hquiet]
  | request gates hsender hrequest => simp [hrequest]
  | subscribe hsender => rfl
  | release hwaiter hfound => rfl

/-- Every request sends one message. -/
theorem sent_run (c : Coordinator) (steps : List Step) :
    (c.run steps).sent = c.sent + (c.answers steps).countP StepAnswer.isRequest := by
  induction steps generalizing c with
  | nil => rfl
  | cons s steps ih =>
      rw [run, answers, ih, sent_step, List.countP_cons]
      omega

theorem sent_le_sent_run (c : Coordinator) (steps : List Step) : c.sent ≤ (c.run steps).sent := by
  rw [sent_run]
  exact Nat.le_add_right _ _

theorem sent_lt_sent_run_iff {c : Coordinator} {steps : List Step} :
    c.sent < (c.run steps).sent ↔ Requested (c.answers steps) := by
  rw [requested_iff, sent_run]
  omega

theorem Abandoned.step {c : Coordinator} (habandoned : c.Abandoned) (s : Step) :
    (c.step s).1.Abandoned := by
  have heffect := c.effect_step s
  generalize (c.step s).1 = d, (c.step s).2 = answer at heffect
  cases heffect with
  | nothing hquiet => exact habandoned
  | senders handles gates hsender hquiet => exact absurd habandoned hsender
  | request gates hsender hrequest => exact absurd habandoned hsender
  | subscribe hsender => exact absurd habandoned hsender
  | release hwaiter hfound => exact habandoned

/-- Nobody comes back to an abandoned coordinator. -/
theorem Abandoned.run {c : Coordinator} (habandoned : c.Abandoned) (steps : List Step) :
    (c.run steps).Abandoned := by
  induction steps generalizing c with
  | nil => exact habandoned
  | cons s steps ih => exact ih (habandoned.step s)

/-- A waiter that subscribed when there were `next` messages. -/
def Waits (c : Coordinator) (w next : Nat) : Prop := (c.waiters.map (·.next))[w]? = some next

theorem waits_iff {c : Coordinator} {w next : Nat} :
    c.Waits w next ↔ ∃ waiter, c.waiters[w]? = some waiter ∧ waiter.next = next := by
  rw [Waits, List.getElem?_map, Option.map_eq_some_iff]

theorem Waits.step {c : Coordinator} {w next : Nat} (hwaits : c.Waits w next) (s : Step) :
    (c.step s).1.Waits w next := by
  have heffect := c.effect_step s
  generalize (c.step s).1 = d, (c.step s).2 = answer at heffect
  cases heffect with
  | nothing hquiet => exact hwaits
  | senders handles gates hsender hquiet => exact hwaits
  | request gates hsender hrequest => exact hwaits
  | subscribe hsender =>
      unfold Waits
      rw [List.map_append, List.getElem?_append_left (List.getElem?_eq_some_iff.1 hwaits).1]
      exact hwaits
  | @release n waiter hwaiter hfound =>
      obtain ⟨polled, hpolled, hnext⟩ := waits_iff.1 hwaits
      have hlength := (List.getElem?_eq_some_iff.1 hwaiter).1
      rw [waits_iff]
      by_cases hsame : n = w
      · subst hsame
        cases hwaiter.symm.trans hpolled
        exact ⟨_, List.getElem?_set_self hlength, hnext⟩
      · exact ⟨polled, (List.getElem?_set_ne hsame).trans hpolled, hnext⟩

theorem Waits.run {c : Coordinator} {w next : Nat} (hwaits : c.Waits w next) (steps : List Step) :
    (c.run steps).Waits w next := by
  induction steps generalizing c with
  | nil => exact hwaits
  | cons s steps ih => exact ih (hwaits.step s)

/-- No waiter is ahead of the channel, and whoever was released was so for a reason. -/
structure Sound (c : Coordinator) : Prop where
  next_le : ∀ waiter ∈ c.waiters, waiter.next ≤ c.sent
  released : ∀ waiter ∈ c.waiters, waiter.released = true → waiter.next < c.sent ∨ c.Abandoned

theorem sound_fresh : fresh.Sound where
  next_le := nofun
  released := nofun

/-- What a waiter finds in the channel when it has not missed anything. -/
theorem Sound.found_ne_nothing_iff {c : Coordinator} (hsound : c.Sound) {waiter : Waiter}
    (hmem : waiter ∈ c.waiters) :
    c.found waiter ≠ .nothing ↔ waiter.next < c.sent ∨ c.Abandoned := by
  have hnext := hsound.next_le waiter hmem
  rw [found, Ne, receive_eq_nothing_iff hnext, ← senders_eq_zero_iff]
  omega

theorem Sound.step {c : Coordinator} (hsound : c.Sound) (s : Step) : (c.step s).1.Sound := by
  have heffect := c.effect_step s
  generalize (c.step s).1 = d, (c.step s).2 = answer at heffect
  cases heffect with
  | nothing hquiet => exact hsound
  | senders handles gates hsender hquiet =>
      refine ⟨hsound.next_le, fun waiter hmem hreleased => .inl ?_⟩
      exact (hsound.released waiter hmem hreleased).resolve_right hsender
  | request gates hsender hrequest =>
      have hbehind (waiter : Waiter) (hmem : waiter ∈ c.waiters) : waiter.next < c.sent + 1 :=
        Nat.lt_succ_of_le (hsound.next_le waiter hmem)
      exact ⟨fun waiter hmem => Nat.le_of_lt (hbehind waiter hmem),
        fun waiter hmem _ => .inl (hbehind waiter hmem)⟩
  | subscribe hsender =>
      constructor
      · intro waiter hmem
        rcases List.mem_append.1 hmem with hmem | hmem
        · exact hsound.next_le waiter hmem
        · cases List.mem_singleton.1 hmem
          exact Nat.le_refl _
      · intro waiter hmem hreleased
        rcases List.mem_append.1 hmem with hmem | hmem
        · exact hsound.released waiter hmem hreleased
        · cases List.mem_singleton.1 hmem
          cases hreleased
  | @release w waiter hwaiter hfound =>
      have hwaiting := List.mem_of_getElem? hwaiter
      constructor
      · intro other hmem
        rcases List.mem_or_eq_of_mem_set hmem with hmem | rfl
        · exact hsound.next_le other hmem
        · exact hsound.next_le waiter hwaiting
      · intro other hmem hreleased
        rcases List.mem_or_eq_of_mem_set hmem with hmem | rfl
        · exact hsound.released other hmem hreleased
        · exact (hsound.found_ne_nothing_iff hwaiting).1 hfound

theorem Sound.run {c : Coordinator} (hsound : c.Sound) (steps : List Step) : (c.run steps).Sound := by
  induction steps generalizing c with
  | nil => exact hsound
  | cons s steps ih => exact ih (hsound.step s)

/-! ## Polling -/

theorem poll_of_not_releases {c : Coordinator} {w next : Nat} (hwaits : c.Waits w next)
    (hkept : ¬c.Releases w) : c.poll w = (c, .waiting) := by
  obtain ⟨waiter, hwaiter, -⟩ := waits_iff.1 hwaits
  unfold Releases poll at hkept
  unfold poll
  rw [hwaiter] at hkept ⊢
  dsimp only at hkept ⊢
  split
  · next hreleased =>
      rw [if_pos hreleased] at hkept
      exact absurd (.inr rfl) hkept
  · next hreleased =>
      split
      · rfl
      · next hfound =>
          rw [if_neg hreleased, if_neg hfound] at hkept
          exact absurd (.inl rfl) hkept

/-- A poll releases exactly the waiters that a message is sent behind, until nobody can send one. -/
theorem Sound.releases_iff {c : Coordinator} (hsound : c.Sound) {w next : Nat}
    (hwaits : c.Waits w next) : c.Releases w ↔ next < c.sent ∨ c.Abandoned := by
  obtain ⟨waiter, hwaiter, rfl⟩ := waits_iff.1 hwaits
  have hmem := List.mem_of_getElem? hwaiter
  rw [← hsound.found_ne_nothing_iff hmem, Releases, poll, hwaiter]
  dsimp only
  split
  · next hreleased =>
      have hfound := (hsound.found_ne_nothing_iff hmem).2 (hsound.released waiter hmem hreleased)
      exact ⟨fun _ => hfound, fun _ => .inr rfl⟩
  · split
    · next hnothing => simp [hnothing]
    · next hfound => exact ⟨fun _ => hfound, fun _ => .inl rfl⟩

/-! ## Subscriptions -/

/-- A waiter comes from a subscription in a run of a new coordinator; what is done before and
after. -/
def Subscribes (steps : List Step) (w : Nat) (before after : List Step) : Prop :=
  ∃ handle, steps = before ++ .subscribe handle :: after ∧
    ((fresh.run before).step (.subscribe handle)).2 = .waiter w

/-- A poll in a run of a new coordinator released the waiter. -/
def WasReleased (steps : List Step) (w : Nat) : Prop :=
  ∃ before after, steps = before ++ .poll w :: after ∧ ((fresh.run before).poll w).2 = .released

theorem waits_of_subscribe {c : Coordinator} {handle w : Nat}
    (hanswer : (c.step (.subscribe handle)).2 = .waiter w) :
    (c.step (.subscribe handle)).1.Waits w c.sent := by
  unfold step at hanswer ⊢
  dsimp only at hanswer ⊢
  split at hanswer
  · next hheld =>
      cases hanswer
      rw [if_pos hheld, waits_iff]
      exact ⟨_, List.getElem?_concat_length, rfl⟩
  · cases hanswer

theorem Subscribes.waits {steps before after : List Step} {w : Nat}
    (hsub : Subscribes steps w before after) : (fresh.run steps).Waits w (fresh.run before).sent := by
  obtain ⟨handle, rfl, hanswer⟩ := hsub
  rw [run_append]
  exact (waits_of_subscribe hanswer).run after

theorem Subscribes.snoc {steps before after : List Step} {w : Nat}
    (hsub : Subscribes steps w before after) (s : Step) :
    Subscribes (steps ++ [s]) w before (after ++ [s]) := by
  obtain ⟨handle, rfl, hanswer⟩ := hsub
  exact ⟨handle, by simp, hanswer⟩

theorem WasReleased.snoc {steps : List Step} {w : Nat} (hreleased : WasReleased steps w) (s : Step) :
    WasReleased (steps ++ [s]) w := by
  obtain ⟨before, after, rfl, hanswer⟩ := hreleased
  exact ⟨before, after ++ [s], by simp, hanswer⟩

/-- A waiter behind a step was there before it, or the step is its subscription or its release. -/
theorem origin_of_waiter {c : Coordinator} {s : Step} {w : Nat} {waiter : Waiter}
    (hwaiter : (c.step s).1.waiters[w]? = some waiter) :
    c.waiters[w]? = some waiter ∨
      (∃ handle, s = .subscribe handle ∧ (c.step s).2 = .waiter w ∧ waiter.released = false) ∨
      ∃ polled, c.waiters[w]? = some polled ∧ s = .poll w ∧ (c.step s).2 = .released ∧
        waiter.next = polled.next := by
  have heffect := c.effect_step s
  generalize (c.step s).1 = d, (c.step s).2 = answer at heffect hwaiter ⊢
  cases heffect with
  | nothing hquiet => exact .inl hwaiter
  | senders handles gates hsender hquiet => exact .inl hwaiter
  | request gates hsender hrequest => exact .inl hwaiter
  | @subscribe handle hsender =>
      have hbound := (List.getElem?_eq_some_iff.1 hwaiter).1
      rw [List.length_append, List.length_singleton] at hbound
      rcases Nat.lt_succ_iff_lt_or_eq.1 hbound with hearlier | rfl
      · rw [List.getElem?_append_left hearlier] at hwaiter
        exact .inl hwaiter
      · rw [List.getElem?_concat_length] at hwaiter
        cases hwaiter
        exact .inr (.inl ⟨handle, rfl, rfl, rfl⟩)
  | @release n polled hpolled hfound =>
      have hlength := (List.getElem?_eq_some_iff.1 hpolled).1
      by_cases hsame : n = w
      · subst hsame
        cases (List.getElem?_set_self hlength).symm.trans hwaiter
        exact .inr (.inr ⟨polled, hpolled, rfl, rfl, rfl⟩)
      · exact .inl ((List.getElem?_set_ne hsame).symm.trans hwaiter)

theorem poll_ne_noSuchWaiter_iff {c : Coordinator} {w : Nat} :
    (c.poll w).2 ≠ .noSuchWaiter ↔ ∃ next, c.Waits w next := by
  simp only [waits_iff, exists_comm (α := Nat), exists_eq_right']
  unfold poll
  cases c.waiters[w]? with
  | none => simp
  | some waiter =>
      dsimp only
      split
      · simp
      · split <;> simp

theorem poll_eq_alreadyReleased_iff {c : Coordinator} {w : Nat} :
    (c.poll w).2 = .alreadyReleased ↔
      ∃ waiter, c.waiters[w]? = some waiter ∧ waiter.released = true := by
  unfold poll
  cases c.waiters[w]? with
  | none => simp
  | some waiter =>
      dsimp only
      split
      · next hreleased => simp [hreleased]
      · next hreleased => split <;> simp [hreleased]

/-- Every waiter of a run comes from a subscription. -/
theorem exists_subscribes {steps : List Step} {w next : Nat} (hwaits : (fresh.run steps).Waits w next) :
    ∃ before after, Subscribes steps w before after := by
  -- The induction is on the end of the run, since the last step may be the subscription.
  induction steps using List.reverseRecOn with
  | nil => cases hwaits
  | append_singleton steps s ih =>
      rw [run_append] at hwaits
      obtain ⟨waiter, hwaiter, hnext⟩ := waits_iff.1 hwaits
      have hearlier (h : (fresh.run steps).Waits w next) :
          ∃ before after, Subscribes (steps ++ [s]) w before after := by
        obtain ⟨before, after, hsub⟩ := ih h
        exact ⟨before, after ++ [s], hsub.snoc s⟩
      rcases origin_of_waiter hwaiter with
        hsame | ⟨handle, rfl, hanswer, -⟩ | ⟨polled, hpolled, -, -, heq⟩
      · exact hearlier (waits_iff.2 ⟨waiter, hsame, hnext⟩)
      · exact ⟨steps, [], handle, rfl, hanswer⟩
      · exact hearlier (waits_iff.2 ⟨polled, hpolled, heq.symm.trans hnext⟩)

/-- Whoever is found released was released by an earlier poll. -/
theorem wasReleased_of_poll {steps : List Step} {w : Nat}
    (hpoll : ((fresh.run steps).poll w).2 = .alreadyReleased) : WasReleased steps w := by
  induction steps using List.reverseRecOn with
  | nil => cases hpoll
  | append_singleton steps s ih =>
      rw [run_append] at hpoll
      obtain ⟨waiter, hwaiter, hreleased⟩ := poll_eq_alreadyReleased_iff.1 hpoll
      rcases origin_of_waiter hwaiter with
        hsame | ⟨handle, -, -, hnew⟩ | ⟨polled, -, rfl, hanswer, -⟩
      · exact (ih (poll_eq_alreadyReleased_iff.2 ⟨waiter, hsame, hreleased⟩)).snoc s
      · simp [hnew] at hreleased
      · exact ⟨steps, [], rfl, hanswer⟩

/-- A poll releases a waiter when a request came after its subscription or nobody is left to make one,
and not otherwise. -/
theorem Subscribes.releases_iff {steps before after : List Step} {w : Nat}
    (hsub : Subscribes steps w before after) :
    (fresh.run steps).Releases w ↔
      Requested ((fresh.answers steps).drop before.length) ∨ (fresh.run steps).Abandoned := by
  rw [(sound_fresh.run steps).releases_iff hsub.waits]
  obtain ⟨handle, rfl, -⟩ := hsub
  rw [answers_append, List.drop_left' (length_answers fresh before), run_append,
    sent_lt_sent_run_iff]

/-- Polling after any run of a new coordinator. Every waiter comes from a subscription. If a request
came after it, or nobody is left to make one, the waiter is released, now if no poll has released it
before; if there was no request at all and somebody may still make one, it waits on and nothing
changes. Whom a poll would release, it would release after any further steps as well. -/
theorem poll_run (steps : List Step) (w : Nat) :
    (((fresh.run steps).poll w).2 ≠ .noSuchWaiter ↔
      ∃ before after, Subscribes steps w before after) ∧
    ∀ before after, Subscribes steps w before after →
      (Requested ((fresh.answers steps).drop before.length) ∨ (fresh.run steps).Abandoned →
        ((fresh.run steps).poll w).2 = .released ∨
          ((fresh.run steps).poll w).2 = .alreadyReleased ∧ WasReleased steps w) ∧
      (¬Requested (fresh.answers steps) ∧ ¬(fresh.run steps).Abandoned →
        (fresh.run steps).poll w = (fresh.run steps, .waiting)) ∧
      ((fresh.run steps).Releases w → ∀ more, (fresh.run (steps ++ more)).Releases w) := by
  refine ⟨?_, fun before after hsub => ⟨fun hreached => ?_, ?_, fun hreleases more => ?_⟩⟩
  · rw [poll_ne_noSuchWaiter_iff]
    constructor
    · rintro ⟨next, hwaits⟩
      exact exists_subscribes hwaits
    · rintro ⟨before, after, hsub⟩
      exact ⟨_, hsub.waits⟩
  · have hreleases := hsub.releases_iff.2 hreached
    exact hreleases.imp_right fun hpoll => ⟨hpoll, wasReleased_of_poll hpoll⟩
  · rintro ⟨hquiet, hsender⟩
    refine poll_of_not_releases hsub.waits fun hreleases => ?_
    rcases hsub.releases_iff.1 hreleases with hrequest | habandoned
    · exact hquiet (hrequest.imp List.mem_of_mem_drop List.mem_of_mem_drop)
    · exact hsender habandoned
  · rw [run_append]
    have hsound := sound_fresh.run steps
    rw [(hsound.run more).releases_iff (hsub.waits.run more)]
    exact ((hsound.releases_iff hsub.waits).1 hreleases).imp
      (fun hsent => Nat.lt_of_lt_of_le hsent (sent_le_sent_run _ more)) fun h => h.run more

/-- Of two requests the channel keeps the second, and by then the only handle is gone; the waiter that
has seen neither is released all the same. -/
theorem poll_run_overwritten :
    ((fresh.run [.subscribe 0, .trigger 0, .trigger 0, .drop 0]).poll 0).2 = .released := by
  have hsub : Subscribes [.subscribe 0, .trigger 0, .trigger 0, .drop 0] 0 []
      [.trigger 0, .trigger 0, .drop 0] := ⟨0, rfl, rfl⟩
  have hrequested : Requested
      ((fresh.answers [.subscribe 0, .trigger 0, .trigger 0, .drop 0]).drop 0) := by decide
  have hpoll := ((poll_run _ 0).2 _ _ hsub).1 (.inl hrequested)
  exact hpoll.resolve_right fun h => absurd h.1 (by decide)

end Coordinator

end Gatehouse.Lifecycle
