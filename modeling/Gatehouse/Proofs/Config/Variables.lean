import Gatehouse.Proofs.Config.BlankVariables
import Gatehouse.Proofs.Config.VariableTexts
import Mathlib.Tactic.MkIffOfInductiveProp

/-!
# Applying an environment

Each of sixteen variables sets one field to what its text stands for, and nothing else is touched. Six of
them have a type; the first of these whose text stands for nothing is told, with the text as it is. Doing
all this again changes nothing.
-/

namespace Gatehouse.Config

/-! ## What variables do -/

/-- A field takes the value that the text of a variable stands for; without a text that is not blank it
stays as it is. -/
def Takes {α : Type} (env : Environment) (name : String) (means : String → α → Prop)
    (before after : α) : Prop :=
  match setValue? env name with
  | none => after = before
  | some text => means text after

/-- Settings become others by an environment: sixteen fields take their variables, the rest stays. -/
@[mk_iff]
structure Overridden (env : Environment) (s t : Settings) : Prop where
  profile : t.profile = s.profile
  bindAddress : Takes env "GATEWAY_BIND_ADDRESS" (fun text v => v = text)
    s.listener.bindAddress t.listener.bindAddress
  tls : t.listener.tls = s.listener.tls
  authUrl : Takes env "AUTH_SERVICE_URL" (fun text v => v = text)
    s.services.authUrl t.services.authUrl
  taskUrl : Takes env "TASK_SERVICE_URL" (fun text v => v = text)
    s.services.taskUrl t.services.taskUrl
  frontendUrl : Takes env "FRONTEND_SERVICE_URL" (fun text v => v = some text)
    s.services.frontendUrl t.services.frontendUrl
  proxySecs : Takes env "PROXY_TIMEOUT" MeansUInt64 s.timeouts.proxySecs t.timeouts.proxySecs
  algorithm : Takes env "JWT_ALGORITHM" MeansAlgorithm s.jwt.algorithm t.jwt.algorithm
  secret : Takes env "JWT_SECRET" (fun text v => v = text) s.jwt.secret t.jwt.secret
  privateKey : Takes env "JWT_PRIVATE_KEY" (fun text v => v = some text)
    s.jwt.privateKey t.jwt.privateKey
  privateKeyPath : Takes env "JWT_PRIVATE_KEY_PATH" (fun text v => v = some text)
    s.jwt.privateKeyPath t.jwt.privateKeyPath
  publicKey : Takes env "JWT_PUBLIC_KEY" (fun text v => v = some text)
    s.jwt.publicKey t.jwt.publicKey
  publicKeyPath : Takes env "JWT_PUBLIC_KEY_PATH" (fun text v => v = some text)
    s.jwt.publicKeyPath t.jwt.publicKeyPath
  leewaySecs : Takes env "JWT_CLOCK_SKEW_SECONDS" MeansUInt64 s.jwt.leewaySecs t.jwt.leewaySecs
  expiryHours : Takes env "JWT_EXPIRY_HOURS" MeansInt64 s.jwt.expiryHours t.jwt.expiryHours
  logLevel : Takes env "LOG_LEVEL" (fun text v => v = text)
    s.observability.logLevel t.observability.logLevel
  logFormat : Takes env "LOG_FORMAT" MeansLogFormat
    s.observability.logFormat t.observability.logFormat
  metricsEnabled : t.observability.metricsEnabled = s.observability.metricsEnabled
  metricsAddress : t.observability.metricsAddress = s.observability.metricsAddress
  maxBodySize : Takes env "MAX_BODY_SIZE" MeansUInt64 s.security.maxBodySize t.security.maxBodySize

/-- The variables with a type and what a text has to be, in the order in which they are looked at. -/
def typedVariables : List (String × (String → Prop)) := [
  ("PROXY_TIMEOUT", fun text => ∃ n, MeansUInt64 text n),
  ("JWT_ALGORITHM", fun text => ∃ algorithm, MeansAlgorithm text algorithm),
  ("JWT_CLOCK_SKEW_SECONDS", fun text => ∃ n, MeansUInt64 text n),
  ("JWT_EXPIRY_HOURS", fun text => ∃ n, MeansInt64 text n),
  ("LOG_FORMAT", fun text => ∃ format, MeansLogFormat text format),
  ("MAX_BODY_SIZE", fun text => ∃ n, MeansUInt64 text n)]

/-- A variable is the first one whose text, which is not blank, is not as it has to be. -/
def FirstBad (env : Environment) (bad : BadVariable) : List (String × (String → Prop)) → Prop
  | [] => False
  | (name, isReadable) :: rest =>
    (bad.name = name ∧ setValue? env name = some bad.value ∧ ¬isReadable bad.value) ∨
      ((∀ text, setValue? env name = some text → isReadable text) ∧ FirstBad env bad rest)

/-- There is a first one when there is any. -/
theorem exists_firstBad_iff {env : Environment} {typed : List (String × (String → Prop))} :
    (∃ bad, FirstBad env bad typed) ↔
      ∃ v ∈ typed, ∃ text, setValue? env v.1 = some text ∧ ¬v.2 text := by
  induction typed with
  | nil => exact iff_of_false (fun ⟨_, hbad⟩ => hbad) (fun ⟨_, hv, _⟩ => List.not_mem_nil hv)
  | cons v typed ih =>
      obtain ⟨name, isReadable⟩ := v
      constructor
      · rintro ⟨bad, ⟨-, htext, hbad⟩ | ⟨-, hrest⟩⟩
        · exact ⟨_, List.mem_cons_self, _, htext, hbad⟩
        · obtain ⟨v, hv, htext⟩ := ih.1 ⟨bad, hrest⟩
          exact ⟨v, List.mem_cons_of_mem _ hv, htext⟩
      · rintro ⟨v, hv, text, htext, hbad⟩
        by_cases hfirst : ∀ text, setValue? env name = some text → isReadable text
        · rcases List.mem_cons.1 hv with rfl | hv
          · exact absurd (hfirst text htext) hbad
          · obtain ⟨bad, hrest⟩ := ih.2 ⟨v, hv, text, htext, hbad⟩
            exact ⟨bad, .inr ⟨hfirst, hrest⟩⟩
        · simp only [not_forall] at hfirst
          obtain ⟨text, htext, hbad⟩ := hfirst
          exact ⟨⟨name, text⟩, .inl ⟨rfl, htext, hbad⟩⟩

namespace Field

/-! ## Errors -/

section Bad

variable {env : Environment} {f : Field} {name : String} {parse : String → Option f.Value}

theorem badVariable?_of_unset (hvar : f.var? = none) : badVariable? env f = none := by
  rw [badVariable?, override?_of_unset hvar]

theorem badVariable?_eq (hvar : f.var? = some (name, parse)) :
    badVariable? env f = (setValue? env name).bind fun text =>
      if (parse text).isSome then none else some ⟨name, text⟩ := by
  rw [badVariable?, override?_of_var hvar]
  cases setValue? env name with
  | none => rfl
  | some text =>
      simp only [Option.bind_some, Option.map_some]
      cases parse text <;> rfl

theorem badVariable?_of_total (hvar : f.var? = some (name, parse))
    (htotal : ∀ text, (parse text).isSome = true) : badVariable? env f = none := by
  rw [badVariable?_eq hvar]
  cases setValue? env name with
  | none => rfl
  | some text => simp [htotal text]

theorem badVariable?_eq_some_iff (hvar : f.var? = some (name, parse)) {bad : BadVariable} :
    badVariable? env f = some bad ↔
      bad.name = name ∧ setValue? env name = some bad.value ∧ ¬(parse bad.value).isSome = true := by
  rw [badVariable?_eq hvar, Option.bind_eq_some_iff]
  constructor
  · rintro ⟨text, htext, hbad⟩
    obtain ⟨hnone, hsame⟩ := Option.ite_none_left_eq_some.1 hbad
    cases hsame
    exact ⟨rfl, htext, hnone⟩
  · rintro ⟨rfl, htext, hnone⟩
    exact ⟨bad.value, htext, if_neg hnone⟩

theorem badVariable?_eq_none_iff (hvar : f.var? = some (name, parse)) :
    badVariable? env f = none ↔
      ∀ text, setValue? env name = some text → (parse text).isSome = true := by
  rw [badVariable?_eq hvar, Option.bind_eq_none_iff]
  refine forall_congr' fun text => imp_congr_right fun _ => ?_
  cases (parse text).isSome <;> simp

end Bad

/-- The typed variables among those of some fields: the others have texts that stand for themselves, or
are not there. -/
inductive TypedAmong : List Field → List (String × (String → Prop)) → Prop
  | nil : TypedAmong [] []
  | unset {f : Field} {fields : List Field} {typed : List (String × (String → Prop))}
      (hvar : f.var? = none) (hrest : TypedAmong fields typed) : TypedAmong (f :: fields) typed
  | plain {f : Field} {name : String} {parse : String → Option f.Value} {fields : List Field}
      {typed : List (String × (String → Prop))} (hvar : f.var? = some (name, parse))
      (htotal : ∀ text, (parse text).isSome = true) (hrest : TypedAmong fields typed) :
      TypedAmong (f :: fields) typed
  | typed {f : Field} {name : String} {parse : String → Option f.Value} {fields : List Field}
      {means : String → f.Value → Prop} {typed : List (String × (String → Prop))}
      (hvar : f.var? = some (name, parse)) (hmeans : ∀ {text v}, parse text = some v ↔ means text v)
      (hrest : TypedAmong fields typed) :
      TypedAmong (f :: fields) ((name, fun text => ∃ v, means text v) :: typed)

theorem typedAmong_all : TypedAmong all typedVariables :=
  .plain rfl (fun _ => rfl) <| .unset rfl <| .plain rfl (fun _ => rfl) <| .plain rfl (fun _ => rfl) <|
    .plain rfl (fun _ => rfl) <| .typed rfl envUInt64?_eq_some_iff <| .typed rfl ofName?_eq_some_iff <|
    .plain rfl (fun _ => rfl) <| .plain rfl (fun _ => rfl) <| .plain rfl (fun _ => rfl) <|
    .plain rfl (fun _ => rfl) <| .plain rfl (fun _ => rfl) <| .typed rfl envUInt64?_eq_some_iff <|
    .typed rfl envInt64?_eq_some_iff <| .plain rfl (fun _ => rfl) <|
    .typed rfl envLogFormat?_eq_some_iff <| .unset rfl <| .unset rfl <|
    .typed rfl envUInt64?_eq_some_iff .nil

/-- What stops the variables is the first typed one that is not as it has to be. -/
theorem TypedAmong.findSome?_eq_some_iff {env : Environment} {bad : BadVariable} {fields : List Field}
    {typed : List (String × (String → Prop))} (htyped : TypedAmong fields typed) :
    fields.findSome? (badVariable? env) = some bad ↔ FirstBad env bad typed := by
  induction htyped with
  | nil => exact iff_of_false nofun id
  | unset hvar _ ih =>
      rw [List.findSome?_cons, badVariable?_of_unset hvar]
      exact ih
  | plain hvar htotal _ ih =>
      rw [List.findSome?_cons, badVariable?_of_total hvar htotal]
      exact ih
  | @typed f name parse fields means typed hvar hmeans _ ih =>
      have hreadable : ∀ text, (parse text).isSome = true ↔ ∃ v, means text v := by
        intro text
        simp only [Option.isSome_iff_exists, hmeans]
      have hfirst : badVariable? env f = some bad ↔ _ := badVariable?_eq_some_iff hvar
      have hnone : badVariable? env f = none ↔ _ := badVariable?_eq_none_iff hvar
      simp only [hreadable] at hfirst hnone
      rw [FirstBad, ← hfirst, ← hnone, ← ih, List.findSome?_cons]
      cases badVariable? env f with
      | none => simp
      | some other => simp

/-! ## Values -/

theorem overridden_eq_some_iff_of_unset {env : Environment} {f : Field} (hvar : f.var? = none)
    {before after : f.Value} : overridden env f before = some after ↔ after = before := by
  rw [overridden, override?_of_unset hvar, Option.some.injEq, eq_comm]

theorem overridden_eq_some_iff {env : Environment} {f : Field} {name : String}
    {parse : String → Option f.Value} {means : String → f.Value → Prop}
    (hvar : f.var? = some (name, parse)) (hmeans : ∀ {text v}, parse text = some v ↔ means text v)
    {before after : f.Value} :
    overridden env f before = some after ↔ Takes env name means before after := by
  rw [overridden, override?_of_var hvar, Takes]
  cases setValue? env name with
  | none => simp [eq_comm]
  | some text => exact hmeans

theorem some_eq_some_iff_eq {α : Type} {a b : α} : some a = some b ↔ b = a := by
  rw [Option.some.injEq, eq_comm]

/-- All fields take their values when each of them takes what its variable stands for. -/
theorem assigned_all_iff {env : Environment} {s t : Settings} :
    Assigned all (overridden env) s t ↔ Overridden env s t := by
  have hfields : Assigned all (overridden env) s t ↔
      t.profile = s.profile ∧ ∀ f ∈ all, overridden env f (f.get s) = some (f.get t) :=
    ⟨fun h => ⟨h.profile, h.values⟩, fun h => ⟨h.1, h.2, fun g hg habsent =>
      absurd (List.mem_map_of_mem hg) habsent⟩⟩
  rw [hfields, overridden_iff]
  refine and_congr_right fun _ => ?_
  simp only [all, List.forall_mem_cons]
  refine and_congr (overridden_eq_some_iff rfl some_eq_some_iff_eq) ?_
  refine and_congr (overridden_eq_some_iff_of_unset rfl) ?_
  refine and_congr (overridden_eq_some_iff rfl some_eq_some_iff_eq) ?_
  refine and_congr (overridden_eq_some_iff rfl some_eq_some_iff_eq) ?_
  refine and_congr (overridden_eq_some_iff rfl some_eq_some_iff_eq) ?_
  refine and_congr (overridden_eq_some_iff rfl @envUInt64?_eq_some_iff) ?_
  refine and_congr (overridden_eq_some_iff rfl @ofName?_eq_some_iff) ?_
  refine and_congr (overridden_eq_some_iff rfl some_eq_some_iff_eq) ?_
  refine and_congr (overridden_eq_some_iff rfl some_eq_some_iff_eq) ?_
  refine and_congr (overridden_eq_some_iff rfl some_eq_some_iff_eq) ?_
  refine and_congr (overridden_eq_some_iff rfl some_eq_some_iff_eq) ?_
  refine and_congr (overridden_eq_some_iff rfl some_eq_some_iff_eq) ?_
  refine and_congr (overridden_eq_some_iff rfl @envUInt64?_eq_some_iff) ?_
  refine and_congr (overridden_eq_some_iff rfl @envInt64?_eq_some_iff) ?_
  refine and_congr (overridden_eq_some_iff rfl some_eq_some_iff_eq) ?_
  refine and_congr (overridden_eq_some_iff rfl @envLogFormat?_eq_some_iff) ?_
  refine and_congr (overridden_eq_some_iff_of_unset rfl) ?_
  refine and_congr (overridden_eq_some_iff_of_unset rfl) ?_
  exact (and_iff_left fun _ h => absurd h List.not_mem_nil).trans
    (overridden_eq_some_iff rfl @envUInt64?_eq_some_iff)

/-- Fields that can take their values have no variable that cannot be read. -/
theorem Assigned.findSome?_badVariable? {env : Environment} {fields : List Field} {s t : Settings}
    (hassigned : Assigned fields (overridden env) s t) :
    fields.findSome? (badVariable? env) = none := by
  rw [List.findSome?_eq_none_iff]
  intro f hf
  have hvalue := hassigned.values f hf
  unfold overridden at hvalue
  unfold badVariable?
  split
  · next hoverride =>
      rw [hoverride] at hvalue
      cases hvalue
  · rfl

/-- Taking the values of the same variables again changes nothing. -/
theorem Assigned.again {env : Environment} {fields : List Field} {s t : Settings}
    (hassigned : Assigned fields (overridden env) s t) : Assigned fields (overridden env) t t := by
  refine ⟨rfl, fun f hf => ?_, fun _ _ _ => rfl⟩
  have hvalue := hassigned.values f hf
  unfold overridden at hvalue ⊢
  split at hvalue
  · exact hvalue
  · rfl

/-- All fields together have one outcome. -/
theorem Assigned.unique {values : ∀ f : Field, f.Value → Option f.Value} {s t u : Settings}
    (ht : Assigned all values s t) (hu : Assigned all values s u) : t = u := by
  refine settings_ext (ht.profile.trans hu.profile.symm) fun f hf => ?_
  exact Option.some.inj ((ht.values f hf).symm.trans (hu.values f hf))

theorem applyAll_eq_ok_iff {env : Environment} {s t : Settings} :
    applyAll env all s = .ok t ↔ Assigned all (overridden env) s t := by
  constructor
  · intro happlied
    cases hbad : all.findSome? (badVariable? env) with
    | some bad =>
        rw [applyAll_of_bad hbad] at happlied
        cases happlied
    | none =>
        obtain ⟨u, hu, hassigned⟩ := applyAll_of_no_bad separate_all hbad s
        rw [hu] at happlied
        cases happlied
        exact hassigned
  · intro hassigned
    obtain ⟨u, hu, hassigned'⟩ :=
      applyAll_of_no_bad separate_all hassigned.findSome?_badVariable? s
    rw [hassigned.unique hassigned', hu]

theorem applyAll_eq_error_iff {env : Environment} {s : Settings} {bad : BadVariable} :
    applyAll env all s = .error bad ↔ all.findSome? (badVariable? env) = some bad := by
  constructor
  · intro hfailed
    cases hbad : all.findSome? (badVariable? env) with
    | some other =>
        rw [applyAll_of_bad hbad] at hfailed
        cases hfailed
        rfl
    | none =>
        obtain ⟨u, hu, -⟩ := applyAll_of_no_bad separate_all hbad s
        rw [hu] at hfailed
        cases hfailed
  · exact fun hbad => applyAll_of_bad hbad s

end Field

/-! ## All variables -/

/-- Applying an environment fails exactly when a typed variable whose text is not blank is not as it has to
be, and tells the first such variable with its text. Otherwise each of the sixteen fields takes what its
own variable stands for and nothing else changes; applied once more, nothing changes at all. No more of an
environment counts than the texts of the sixteen variables that are not blank. -/
theorem withEnvironment_exact (s : Settings) (env : Environment) :
    ((∃ bad, s.withEnvironment env = .error bad) ↔
      ∃ v ∈ typedVariables, ∃ text, setValue? env v.1 = some text ∧ ¬v.2 text) ∧
    (∀ bad, s.withEnvironment env = .error bad ↔ FirstBad env bad typedVariables) ∧
    (∀ t, s.withEnvironment env = .ok t ↔ Overridden env s t) ∧
    (∀ t, s.withEnvironment env = .ok t → t.withEnvironment env = .ok t) ∧
    ∀ other, SameValues env other → s.withEnvironment env = s.withEnvironment other := by
  have hbad : ∀ bad, s.withEnvironment env = .error bad ↔ FirstBad env bad typedVariables := by
    intro bad
    rw [Field.withEnvironment_eq, Field.applyAll_eq_error_iff]
    exact Field.typedAmong_all.findSome?_eq_some_iff
  refine ⟨?_, hbad, fun t => ?_, fun t => ?_, fun other hsame => hsame.withEnvironment_eq s⟩
  · simp only [hbad]
    exact exists_firstBad_iff
  · rw [Field.withEnvironment_eq, Field.applyAll_eq_ok_iff]
    exact Field.assigned_all_iff
  · simp only [Field.withEnvironment_eq, Field.applyAll_eq_ok_iff]
    exact fun hassigned => hassigned.again

/-- The largest word is taken as it is, the number after it is not taken at all. -/
theorem withEnvironment_exact_largest :
    let env (size : String) : Environment := fun name =>
      [("PROXY_TIMEOUT", " +007 "), ("LOG_FORMAT", "JSON"), ("MAX_BODY_SIZE", size)].lookup name
    let s : Settings :=
      { timeouts := { proxySecs := 7 }, observability := { logFormat := .json }
        security := { maxBodySize := 18446744073709551615 } }
    Overridden (env "18446744073709551615") {} s ∧
      s.withEnvironment (env "18446744073709551615") = .ok s ∧
      FirstBad (env "18446744073709551616") ⟨"MAX_BODY_SIZE", "18446744073709551616"⟩
        typedVariables := by
  intro env s
  have hlargest : ({} : Settings).withEnvironment (env "18446744073709551615") = .ok s := by
    decide +kernel
  have hlarger : ({} : Settings).withEnvironment (env "18446744073709551616") =
      .error ⟨"MAX_BODY_SIZE", "18446744073709551616"⟩ := by
    decide +kernel
  obtain ⟨-, -, htaken, hagain, -⟩ := withEnvironment_exact {} (env "18446744073709551615")
  obtain ⟨-, hbad, -⟩ := withEnvironment_exact {} (env "18446744073709551616")
  exact ⟨(htaken s).1 hlargest, hagain s hlargest, (hbad _).1 hlarger⟩

end Gatehouse.Config
