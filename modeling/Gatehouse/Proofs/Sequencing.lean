/-!
# Steps in sequence

What a step that waits for another one gives, and what its success says of both.
-/

namespace Gatehouse

theorem ok_bind {ε α β : Type} (a : α) (f : α → Except ε β) : (Except.ok a >>= f) = f a := rfl

theorem mapError_error {ε δ α : Type} (f : ε → δ) (e : ε) :
    (Except.error e : Except ε α).mapError f = .error (f e) := rfl

theorem bind_eq_ok_iff {ε α β : Type} {x : Except ε α} {f : α → Except ε β} {b : β} :
    (x >>= f) = .ok b ↔ ∃ a, x = .ok a ∧ f a = .ok b := by
  cases x with
  | error e =>
      constructor
      · intro h
        cases h
      · rintro ⟨a, h, -⟩
        cases h
  | ok a =>
      constructor
      · intro h
        exact ⟨a, rfl, h⟩
      · rintro ⟨a', h, hf⟩
        cases h
        exact hf

theorem bind_eq_error_iff {ε α β : Type} {x : Except ε α} {f : α → Except ε β} {e : ε} :
    (x >>= f) = .error e ↔ x = .error e ∨ ∃ a, x = .ok a ∧ f a = .error e := by
  cases x with
  | error e' =>
      constructor
      · intro h
        cases h
        exact .inl rfl
      · rintro (h | ⟨a, h, -⟩)
        · cases h
          rfl
        · cases h
  | ok a =>
      constructor
      · intro h
        exact .inr ⟨a, rfl, h⟩
      · rintro (h | ⟨a', h, hf⟩)
        · cases h
        · cases h
          exact hf

theorem map_eq_ok_iff {ε α β : Type} {x : Except ε α} {f : α → β} {b : β} :
    x.map f = .ok b ↔ ∃ a, x = .ok a ∧ f a = b := by
  cases x <;> simp [Except.map]

theorem mapError_eq_ok_iff {ε δ α : Type} {x : Except ε α} {f : ε → δ} {a : α} :
    x.mapError f = .ok a ↔ x = .ok a := by
  cases x with
  | error e => exact ⟨nofun, nofun⟩
  | ok b =>
      have hkept : (Except.ok b : Except ε α).mapError f = .ok b := rfl
      rw [hkept, Except.ok.injEq, Except.ok.injEq]

/-- A result that depends on a condition is there when the condition holds. -/
theorem ite_eq_ok_iff {ε α : Type} {c : Prop} [Decidable c] {a b : α} {e : ε} :
    (if c then Except.ok a else Except.error e) = .ok b ↔ c ∧ a = b := by
  by_cases hc : c <;> simp [hc]

theorem exists_eq_ok_of_isSome {ε α : Type} {x : Except ε α} (hsome : x.toOption.isSome = true) :
    ∃ a, x = .ok a := by
  cases x with
  | error e => cases hsome
  | ok a => exact ⟨a, rfl⟩

/-- Every result of a step that succeeds on a whole list is the result of one of its items. -/
theorem exists_of_mem_mapM {α β : Type} {f : α → Option β} {as : List α} {bs : List β}
    (hbs : as.mapM f = some bs) {b : β} (hb : b ∈ bs) : ∃ a ∈ as, f a = some b := by
  induction as generalizing bs with
  | nil =>
      cases hbs
      cases hb
  | cons a as ih =>
      rw [List.mapM_cons] at hbs
      obtain ⟨first, hfirst, hbs⟩ := Option.bind_eq_some_iff.1 hbs
      obtain ⟨rest, hrest, hbs⟩ := Option.bind_eq_some_iff.1 hbs
      cases hbs
      rcases List.mem_cons.1 hb with rfl | hb
      · exact ⟨a, List.mem_cons_self, hfirst⟩
      · obtain ⟨source, hmem, hsource⟩ := ih hrest hb
        exact ⟨source, List.mem_cons_of_mem _ hmem, hsource⟩

/-- A step that succeeds on a whole list succeeds on each of its items. -/
theorem exists_eq_some_of_mapM {α β : Type} {f : α → Option β} {as : List α} {bs : List β}
    (hbs : as.mapM f = some bs) {a : α} (ha : a ∈ as) : ∃ b, f a = some b := by
  induction as generalizing bs with
  | nil => cases ha
  | cons first as ih =>
      rw [List.mapM_cons] at hbs
      obtain ⟨b, hfirst, hbs⟩ := Option.bind_eq_some_iff.1 hbs
      obtain ⟨rest, hrest, -⟩ := Option.bind_eq_some_iff.1 hbs
      rcases List.mem_cons.1 ha with rfl | ha
      · exact ⟨b, hfirst⟩
      · exact ih hrest ha

/-- A step that succeeds on each item of a list succeeds on the whole. -/
theorem mapM_eq_some_map {α β : Type} {f : α → Option β} {g : α → β} {as : List α}
    (hall : ∀ a ∈ as, f a = some (g a)) : as.mapM f = some (as.map g) := by
  induction as with
  | nil => rfl
  | cons a as ih =>
      obtain ⟨ha, has⟩ := List.forall_mem_cons.1 hall
      rw [List.mapM_cons, ha, ih has]
      rfl

end Gatehouse
