/-!
# Counters

A family of counters, one for each label. A label has a counter from its first count on, and `get` is
zero before. The counters stand in the order in which their labels first appeared.
-/

namespace Gatehouse.Metrics

/-- Counters by label. -/
structure Counter (α : Type) where
  cells : List (α × Nat) := []
deriving DecidableEq, Repr

namespace Counter

variable {α : Type} [DecidableEq α]

/-- Count a label in a list of cells. -/
def incrementCells (label : α) : List (α × Nat) → List (α × Nat)
  | [] => [(label, 1)]
  | (other, n) :: cells =>
    if other = label then (other, n + 1) :: cells else (other, n) :: incrementCells label cells

def increment (counter : Counter α) (label : α) : Counter α :=
  ⟨incrementCells label counter.cells⟩

/-- How often a label was counted. -/
def get (counter : Counter α) (label : α) : Nat := (counter.cells.lookup label).getD 0

/-- How often anything was counted. -/
def total (counter : Counter α) : Nat := counter.cells.foldr (fun cell n => cell.2 + n) 0

def labels (counter : Counter α) : List α := counter.cells.map (·.1)

/-- One count is one more for its label and nothing for any other. -/
@[simp] theorem get_increment (counter : Counter α) (label other : α) :
    (counter.increment label).get other = counter.get other + if label = other then 1 else 0 := by
  obtain ⟨cells⟩ := counter
  simp only [increment, get]
  induction cells with
  | nil =>
    rw [incrementCells, List.lookup_cons]
    cases hother : other == label with
    | true => simp [eq_of_beq hother]
    | false => simp [Ne.symm (ne_of_beq_false hother)]
  | cons cell cells ih =>
    obtain ⟨first, n⟩ := cell
    rw [incrementCells]
    by_cases hfirst : first = label
    · subst hfirst
      rw [if_pos rfl, List.lookup_cons, List.lookup_cons]
      cases hother : other == first with
      | true => simp [eq_of_beq hother]
      | false => simp [Ne.symm (ne_of_beq_false hother)]
    · rw [if_neg hfirst, List.lookup_cons, List.lookup_cons]
      cases hother : other == first with
      | true => simp [eq_of_beq hother, Ne.symm hfirst]
      | false => exact ih

@[simp] theorem total_increment (counter : Counter α) (label : α) :
    (counter.increment label).total = counter.total + 1 := by
  obtain ⟨cells⟩ := counter
  simp only [increment, total]
  induction cells with
  | nil => rfl
  | cons cell cells ih =>
    obtain ⟨first, n⟩ := cell
    rw [incrementCells]
    by_cases hfirst : first = label
    · rw [if_pos hfirst, List.foldr_cons, List.foldr_cons, Nat.add_right_comm]
    · rw [if_neg hfirst, List.foldr_cons, List.foldr_cons, ih, Nat.add_assoc]

/-- A label has a counter from its first count on. -/
@[simp] theorem mem_labels_increment {counter : Counter α} {label other : α} :
    other ∈ (counter.increment label).labels ↔ other ∈ counter.labels ∨ other = label := by
  obtain ⟨cells⟩ := counter
  simp only [increment, labels]
  induction cells with
  | nil => simp [incrementCells]
  | cons cell cells ih =>
    obtain ⟨first, n⟩ := cell
    rw [incrementCells]
    by_cases hfirst : first = label
    · rw [if_pos hfirst, ← hfirst]
      simp only [List.map_cons, List.mem_cons]
      exact ⟨.inl, fun h => h.elim id .inl⟩
    · rw [if_neg hfirst]
      simp only [List.map_cons, List.mem_cons, ih, or_assoc]

/-- A label has one counter only. -/
theorem nodup_labels_increment {counter : Counter α} (label : α) (hnodup : counter.labels.Nodup) :
    (counter.increment label).labels.Nodup := by
  obtain ⟨cells⟩ := counter
  simp only [increment, labels] at hnodup ⊢
  induction cells with
  | nil => exact List.pairwise_singleton _ label
  | cons cell cells ih =>
    obtain ⟨first, n⟩ := cell
    obtain ⟨hnew, hnodup⟩ := List.nodup_cons.1 hnodup
    rw [incrementCells]
    by_cases hfirst : first = label
    · rw [if_pos hfirst]
      exact List.nodup_cons.2 ⟨hnew, hnodup⟩
    · rw [if_neg hfirst]
      refine List.nodup_cons.2 ⟨fun hagain => ?_, ih hnodup⟩
      have hlabels := @mem_labels_increment α _ ⟨cells⟩ label first
      exact (hlabels.1 hagain).elim hnew hfirst

end Counter

end Gatehouse.Metrics
