import Gatehouse.Proofs.Config.Fields
import Gatehouse.Proofs.Sequencing

/-!
# Fields one after the other

When fields are set one after the other, each ends up with its own value, whatever the others do, and
all that is not set stays. The variables of an environment are applied that way: the first one that
cannot be read stops everything, and without such a one every field has the value of its variable, or
else the one it had before.
-/

namespace Gatehouse.Config

namespace Field

/-! ## Setting some fields -/

/-- One settings become others by giving some fields their values, which may depend on those before;
everything else stays. -/
structure Assigned (fields : List Field) (values : ∀ f : Field, f.Value → Option f.Value)
    (s t : Settings) : Prop where
  profile : t.profile = s.profile
  values : ∀ f ∈ fields, values f (f.get s) = some (f.get t)
  frame : ∀ g ∈ all, g.path ∉ fields.map path → g.get t = g.get s

/-- Fields of the settings, each of them once. -/
structure Separate (fields : List Field) : Prop where
  known : ∀ f ∈ fields, f ∈ all
  paths : (fields.map path).Nodup

theorem separate_all : Separate all := by
  refine ⟨fun f hf => hf, ?_⟩
  simp [all, path]

theorem Separate.tail {f : Field} {fields : List Field} (hfields : Separate (f :: fields)) :
    Separate fields :=
  ⟨fun g hg => hfields.known g (List.mem_cons_of_mem f hg), (List.nodup_cons.1 hfields.paths).2⟩

variable {fields : List Field} {values : ∀ f : Field, f.Value → Option f.Value} {s t : Settings}

theorem Assigned.nil (values : ∀ f : Field, f.Value → Option f.Value) (s : Settings) :
    Assigned [] values s s :=
  ⟨rfl, fun _ h => absurd h List.not_mem_nil, fun _ _ _ => rfl⟩

/-- One field is set first and the others after it. -/
theorem Assigned.cons {f : Field} (hfields : Separate (f :: fields)) {value : f.Value}
    (hvalue : values f (f.get s) = some value) (hrest : Assigned fields values (f.set value s) t) :
    Assigned (f :: fields) values s t := by
  have hf := hfields.known f List.mem_cons_self
  obtain ⟨hnew, -⟩ := List.nodup_cons.1 hfields.paths
  refine ⟨?_, fun g hg => ?_, fun g hg habsent => ?_⟩
  · rw [hrest.profile, f.profile_set]
  · rcases List.mem_cons.1 hg with rfl | hg
    · rw [hvalue, hrest.frame g hf hnew, g.get_set]
    · have hne : f.path ≠ g.path := by
        intro hsame
        exact hnew (hsame ▸ List.mem_map_of_mem hg)
      have hknown := hfields.tail.known g hg
      rw [← hrest.values g hg, get_set_of_ne f hf g hknown hne]
  · obtain ⟨hne, habsent⟩ := not_or.1 (mt List.mem_cons.2 habsent)
    rw [hrest.frame g hg habsent, get_set_of_ne f hf g hg (Ne.symm hne)]

/-- Fields can be given any values. -/
theorem exists_assigned (hfields : Separate fields)
    (hvalues : ∀ f ∈ fields, ∀ before, (values f before).isSome = true) (s : Settings) :
    ∃ t, Assigned fields values s t := by
  induction fields generalizing s with
  | nil => exact ⟨s, .nil values s⟩
  | cons f fields ih =>
      obtain ⟨hf, hrest⟩ := List.forall_mem_cons.1 hvalues
      obtain ⟨value, hvalue⟩ := Option.isSome_iff_exists.1 (hf (f.get s))
      obtain ⟨t, ht⟩ := ih hfields.tail hrest (f.set value s)
      exact ⟨t, ht.cons hfields hvalue⟩

/-! ## The environment -/

/-- What an environment has for a field: the name of its variable, the text of that one, and the value
which the text stands for, if any. -/
def override? (field : Field) (env : Environment) :
    Option (String × String × Option field.Value) :=
  field.var?.bind fun (name, parse) =>
    (setValue? env name).map fun text => (name, text, parse text)

theorem override?_of_unset {f : Field} (hvar : f.var? = none) (env : Environment) :
    f.override? env = none := by
  rw [override?, hvar]
  rfl

theorem override?_of_var {f : Field} {name : String} {parse : String → Option f.Value}
    (hvar : f.var? = some (name, parse)) (env : Environment) :
    f.override? env = (setValue? env name).map fun text => (name, text, parse text) := by
  rw [override?, hvar]
  rfl

/-- The variable of a field when its text cannot be read. -/
def badVariable? (env : Environment) (field : Field) : Option BadVariable :=
  match field.override? env with
  | some (name, text, none) => some ⟨name, text⟩
  | _ => none

/-- The value of a field in an environment, from the one below. -/
def overridden (env : Environment) (field : Field) (below : field.Value) : Option field.Value :=
  match field.override? env with
  | some (_, _, value) => value
  | none => some below

/-- The variables of some fields, applied one after the other. -/
def applyAll (env : Environment) (fields : List Field) (s : Settings) : Except BadVariable Settings :=
  (fields.filterMap assignment?).foldlM (Variable.apply env) s

theorem withEnvironment_eq (s : Settings) (env : Environment) :
    s.withEnvironment env = applyAll env all s := by
  rw [Settings.withEnvironment, knownVariables_eq, applyAll]

/-- The variable of the first field is applied first: it fails, or sets the field, or does nothing. -/
theorem applyAll_cons (env : Environment) (f : Field) (fields : List Field) (s : Settings) :
    applyAll env (f :: fields) s =
      match f.override? env with
      | some (name, text, none) => .error ⟨name, text⟩
      | some (_, _, some value) => applyAll env fields (f.set value s)
      | none => applyAll env fields s := by
  unfold applyAll
  cases hvar : f.var? with
  | none =>
      have hnone : f.assignment? = none := by
        rw [assignment?, hvar]
        rfl
      rw [List.filterMap_cons_none hnone, override?_of_unset hvar]
  | some var =>
      obtain ⟨name, parse⟩ := var
      have hsome : f.assignment? =
          some ⟨name, fun text s => (parse text).map fun v => f.set v s⟩ := by
        rw [assignment?, hvar]
        rfl
      rw [List.filterMap_cons_some hsome, List.foldlM_cons, Variable.apply, override?_of_var hvar]
      dsimp only
      cases setValue? env name with
      | none => rfl
      | some text =>
          simp only [Option.map_some]
          cases parse text <;> rfl

/-- The first variable that cannot be read stops everything. -/
theorem applyAll_of_bad {env : Environment} {bad : BadVariable}
    (hbad : fields.findSome? (badVariable? env) = some bad) (s : Settings) :
    applyAll env fields s = .error bad := by
  induction fields generalizing s with
  | nil => cases hbad
  | cons f fields ih =>
      rw [applyAll_cons]
      rw [List.findSome?_cons, badVariable?] at hbad
      split
      · next name text hoverride =>
          rw [hoverride] at hbad
          cases hbad
          rfl
      · next name text value hoverride =>
          rw [hoverride] at hbad
          exact ih hbad _
      · next hoverride =>
          rw [hoverride] at hbad
          exact ih hbad _

/-- Without a variable that cannot be read all fields get their values. -/
theorem applyAll_of_no_bad {env : Environment} (hfields : Separate fields)
    (hnone : fields.findSome? (badVariable? env) = none) (s : Settings) :
    ∃ t, applyAll env fields s = .ok t ∧ Assigned fields (overridden env) s t := by
  induction fields generalizing s with
  | nil => exact ⟨s, rfl, .nil _ s⟩
  | cons f fields ih =>
      rw [applyAll_cons]
      rw [List.findSome?_cons, badVariable?] at hnone
      split
      · next name text hoverride =>
          rw [hoverride] at hnone
          cases hnone
      · next name text value hoverride =>
          rw [hoverride] at hnone
          obtain ⟨t, happlied, ht⟩ := ih hfields.tail hnone (f.set value s)
          have hvalue : overridden env f (f.get s) = some value := by
            rw [overridden, hoverride]
          exact ⟨t, happlied, ht.cons hfields hvalue⟩
      · next hoverride =>
          rw [hoverride] at hnone
          obtain ⟨t, happlied, ht⟩ := ih hfields.tail hnone s
          have hvalue : overridden env f (f.get s) = some (f.get s) := by
            rw [overridden, hoverride]
          have ht : Assigned fields (overridden env) (f.set (f.get s) s) t := by
            rw [f.set_get]
            exact ht
          exact ⟨t, happlied, ht.cons hfields hvalue⟩

end Field

end Gatehouse.Config
