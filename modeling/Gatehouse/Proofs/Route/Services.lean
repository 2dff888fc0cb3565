import Gatehouse.Proofs.Config.Problems
import Gatehouse.Proofs.Route.Precedence
import Gatehouse.Route.Services

/-!
# The services of the settings as targets

A base URL is looked at twice: once when the settings are validated, and once when the gateway's table
is built. Both accept the same texts, and both stop at the same service first. A frontend that is not
named is the task service, so that its URL is judged once only.
-/

namespace Gatehouse.Route

open Config (Problem Services Settings filter_topic_problems isHttpBase)

/-! ## Targets -/

/-- The error refuses a base URL, written as `value`, for the target `name`. -/
inductive RouteError.Refuses : RouteError → String → String → Prop where
  | invalidBase (name value : String) (reason : UrlError) :
      Refuses (.invalidBase name value reason) name value
  | unsupportedScheme (name value : String) : Refuses (.unsupportedScheme name value) name value

/-- A target is made of exactly the base URLs that validation accepts. -/
theorem Target.exists_create_iff {name start base : String} :
    (∃ target, Target.create name start base = .ok target) ↔ isHttpBase base = true := by
  unfold Target.create isHttpBase
  constructor
  · rintro ⟨target, hcreated⟩
    split at hcreated
    · cases hcreated
    · next url hparsed =>
        split at hcreated
        · next hserved => simp [hparsed, hserved]
        · cases hcreated
  · intro haccepted
    split
    · next reason hparsed => simp [hparsed] at haccepted
    · next url hparsed =>
        have hserved : url.scheme = "http" ∧ url.hasHost = true := by
          simpa [hparsed] using haccepted
        exact ⟨_, dif_pos hserved⟩

theorem Target.refuses_of_create {name start base : String} {e : RouteError}
    (hfailed : Target.create name start base = .error e) : e.Refuses name base := by
  unfold Target.create at hfailed
  split at hfailed
  · cases hfailed
    exact .invalidBase name base _
  · split at hfailed
    · cases hfailed
    · cases hfailed
      exact .unsupportedScheme name base

/-- A target is either made or refused for its base URL. -/
theorem Target.create_cases (name start base : String) :
    (∃ target, Target.create name start base = .ok target ∧ isHttpBase base = true) ∨
      ∃ e, Target.create name start base = .error e ∧ e.Refuses name base ∧
        isHttpBase base = false := by
  cases hcreated : Target.create name start base with
  | ok target => exact .inl ⟨target, rfl, Target.exists_create_iff.1 ⟨target, hcreated⟩⟩
  | error e =>
      refine .inr ⟨e, rfl, Target.refuses_of_create hcreated, ?_⟩
      refine Bool.eq_false_iff.2 fun haccepted => ?_
      obtain ⟨target, htarget⟩ := Target.exists_create_iff.2 haccepted
      rw [hcreated] at htarget
      cases htarget

/-! ## Tables -/

/-- The three targets have distinct prefixes, and the last takes every path. -/
theorem Table.exists_ofTargets_of_services {authUrl taskUrl frontendUrl : String}
    {auth tasks frontend : Target}
    (hauth : Target.create "auth" "/api/auth" authUrl = .ok auth)
    (htasks : Target.create "tasks" "/api/tasks" taskUrl = .ok tasks)
    (hfrontend : Target.create "frontend" "/" frontendUrl = .ok frontend) :
    ∃ table, Table.ofTargets [auth, tasks, frontend] = .ok table := by
  have hdistinct : [PathPrefix.ofString "/api/auth", .ofString "/api/tasks", .ofString "/"].Nodup := by
    decide
  have hall : (PathPrefix.ofString "/").isCatchAll = true := by decide
  refine Table.exists_ofTargets_iff.2 ⟨?_, frontend, by simp, ?_⟩
  · simpa only [List.map_cons, List.map_nil, Target.pathPrefix_of_create hauth,
      Target.pathPrefix_of_create htasks, Target.pathPrefix_of_create hfrontend] using hdistinct
  · rw [Target.pathPrefix_of_create hfrontend]
    exact hall

theorem Table.exists_ofServices {services : Services} (hauth : isHttpBase services.authUrl = true)
    (htasks : isHttpBase services.taskUrl = true)
    (hfrontend : isHttpBase services.catchAllUrl = true) :
    ∃ table, Table.ofServices services = .ok table := by
  obtain ⟨auth, hauth⟩ := Target.exists_create_iff.2 hauth
  obtain ⟨tasks, htasks⟩ := Target.exists_create_iff.2 htasks
  obtain ⟨frontend, hfrontend⟩ := Target.exists_create_iff.2 hfrontend
  obtain ⟨table, htable⟩ := Table.exists_ofTargets_of_services hauth htasks hfrontend
  refine ⟨table, bind_eq_ok_iff.2 ⟨auth, hauth, bind_eq_ok_iff.2 ⟨tasks, htasks, ?_⟩⟩⟩
  exact bind_eq_ok_iff.2 ⟨frontend, hfrontend, htable⟩

/-- The gateway's table looks for the tasks first, as their prefix is the longest, and for the frontend
last. -/
theorem Table.targets_of_ofServices {services : Services} {table : Table}
    (hmade : Table.ofServices services = .ok table) :
    ∃ auth tasks frontend, Target.create "auth" "/api/auth" services.authUrl = .ok auth ∧
      Target.create "tasks" "/api/tasks" services.taskUrl = .ok tasks ∧
      Target.create "frontend" "/" services.catchAllUrl = .ok frontend ∧
      table.targets = [tasks, auth, frontend] := by
  obtain ⟨auth, hauth, hmade⟩ := bind_eq_ok_iff.1 hmade
  obtain ⟨tasks, htasks, hmade⟩ := bind_eq_ok_iff.1 hmade
  obtain ⟨frontend, hfrontend, hmade⟩ := bind_eq_ok_iff.1 hmade
  have ha : auth.prefixSize = 9 := congrArg PathPrefix.size (Target.pathPrefix_of_create hauth)
  have ht : tasks.prefixSize = 10 := congrArg PathPrefix.size (Target.pathPrefix_of_create htasks)
  have hf : frontend.prefixSize = 1 := congrArg PathPrefix.size (Target.pathPrefix_of_create hfrontend)
  refine ⟨auth, tasks, frontend, hauth, htasks, hfrontend, ?_⟩
  -- The sizes of the three prefixes differ, so that they fix the order.
  rw [Table.targets_of_ofTargets hmade, longestFirst]
  simp [List.mergeSort, List.MergeSort.Internal.splitInTwo, ha, ht, hf]

/-- The targets of the gateway go by fixed names. -/
theorem Table.names_of_ofServices {services : Services} {table : Table}
    (hmade : Table.ofServices services = .ok table) :
    table.targets.map (·.name) = ["tasks", "auth", "frontend"] := by
  obtain ⟨auth, tasks, frontend, hauth, htasks, hfrontend, htargets⟩ :=
    Table.targets_of_ofServices hmade
  rw [htargets, List.map_cons, List.map_cons, List.map_cons, List.map_nil,
    Target.name_of_create hauth, Target.name_of_create htasks, Target.name_of_create hfrontend]

/-- Each target of the gateway's table with the field of the settings that gives its base URL. -/
def serviceFields : List (String × String) :=
  [("auth", "upstreams.auth_url"), ("tasks", "upstreams.task_url"),
    ("frontend", "upstreams.frontend_url")]

/-- The error and the problem are about one base URL: the target's, and that of the field that gives
it. -/
def RouteError.IsAbout (e : RouteError) (problem : Problem) : Prop :=
  ∃ name field value, (name, field) ∈ serviceFields ∧ e.Refuses name value ∧
    problem = .serviceUrl field value

/-- Services without a problem make a table, and otherwise the error is about their first problem. -/
theorem Table.ofServices_cases (services : Services) :
    (services.problems = [] ∧ ∃ table, Table.ofServices services = .ok table) ∨
      ∃ e problem, Table.ofServices services = .error e ∧
        services.problems.head? = some problem ∧ e.IsAbout problem := by
  rcases Target.create_cases "auth" "/api/auth" services.authUrl with
    ⟨auth, hauth, hauthUrl⟩ | ⟨e, hauth, hrefuses, hauthUrl⟩
  · rcases Target.create_cases "tasks" "/api/tasks" services.taskUrl with
      ⟨tasks, htasks, htaskUrl⟩ | ⟨e, htasks, hrefuses, htaskUrl⟩
    · rcases Target.create_cases "frontend" "/" services.catchAllUrl with
        ⟨frontend, hfrontend, hfrontendUrl⟩ | ⟨e, hfrontend, hrefuses, hfrontendUrl⟩
      · refine .inl ⟨?_, Table.exists_ofServices hauthUrl htaskUrl hfrontendUrl⟩
        cases hnamed : services.frontendUrl with
        | none => simp [Services.problems, Services.fields, hauthUrl, htaskUrl, hnamed]
        | some url =>
            rw [Services.catchAllUrl, hnamed, Option.getD_some] at hfrontendUrl
            simp [Services.problems, Services.fields, hauthUrl, htaskUrl, hnamed, hfrontendUrl]
      · cases hnamed : services.frontendUrl with
        | none =>
            -- The frontend is the task service, which was accepted before.
            rw [Services.catchAllUrl, hnamed, Option.getD_none, htaskUrl] at hfrontendUrl
            cases hfrontendUrl
        | some url =>
            have hurl : services.catchAllUrl = url := by rw [Services.catchAllUrl, hnamed, Option.getD_some]
            rw [hurl] at hfrontend hrefuses hfrontendUrl
            refine .inr ⟨e, .serviceUrl "upstreams.frontend_url" url, ?_, ?_, "frontend", _, _, ?_,
              hrefuses, rfl⟩
            · rw [Table.ofServices, hauth, htasks, hurl, hfrontend]
              rfl
            · simp [Services.problems, Services.fields, hauthUrl, htaskUrl, hnamed, hfrontendUrl]
            · simp [serviceFields]
    · refine .inr ⟨e, .serviceUrl "upstreams.task_url" services.taskUrl, ?_, ?_, "tasks", _, _, ?_,
        hrefuses, rfl⟩
      · rw [Table.ofServices, hauth, htasks]
        rfl
      · simp [Services.problems, Services.fields, hauthUrl, htaskUrl]
      · simp [serviceFields]
  · refine .inr ⟨e, .serviceUrl "upstreams.auth_url" services.authUrl, ?_, ?_, "auth", _, _, ?_,
      hrefuses, rfl⟩
    · rw [Table.ofServices, hauth]
      rfl
    · simp [Services.problems, Services.fields, hauthUrl]
    · simp [serviceFields]

/-- Settings make a table exactly when the services have no problem. -/
theorem Table.exists_ofServices_iff (services : Services) :
    (∃ table, Table.ofServices services = .ok table) ↔ services.problems = [] := by
  rcases Table.ofServices_cases services with ⟨hnone, hsome⟩ | ⟨e, problem, herror, hhead, -⟩
  · exact ⟨fun _ => hnone, fun _ => hsome⟩
  · constructor
    · rintro ⟨table, htable⟩
      rw [herror] at htable
      cases htable
    · intro hnone
      rw [hnone] at hhead
      cases hhead

/-! ## Settings -/

/-- The gateway's table can be built from settings exactly when validation has nothing to say against
the URL of a service, and if it cannot, the error names the target and the value of the first such
problem. A frontend that is not named is the task service in every respect, for the table and for
whatever it resolves, but a bad URL of the task service is still one problem and not two. -/
theorem Table.exists_ofServices_iff_problems (s : Settings) :
    ((∃ table, Table.ofServices s.services = .ok table) ↔
      ∀ problem ∈ s.problems, problem.topic ≠ .service) ∧
    (∀ e, Table.ofServices s.services = .error e →
      ∃ problem, s.problems.find? (·.topic = .service) = some problem ∧ e.IsAbout problem) ∧
    (s.services.frontendUrl = none →
      (Table.ofServices s.services =
        Table.ofServices { s.services with frontendUrl := some s.services.taskUrl }) ∧
      (∀ path query, (Table.ofServices s.services).map (·.resolve path query) =
        (Table.ofServices { s.services with frontendUrl := some s.services.taskUrl }).map
          (·.resolve path query)) ∧
      (isHttpBase s.services.taskUrl = false →
        s.problems.filter (fun problem =>
            problem ≠ .serviceUrl "upstreams.auth_url" s.services.authUrl && problem.topic = .service) =
          [.serviceUrl "upstreams.task_url" s.services.taskUrl])) := by
  refine ⟨?_, ?_, fun hnamed => ⟨?_, ?_, ?_⟩⟩
  · rw [Table.exists_ofServices_iff, ← (filter_topic_problems s).1, List.filter_eq_nil_iff]
    simp only [decide_eq_true_eq, ne_eq]
  · intro e herror
    rw [← List.head?_filter, (filter_topic_problems s).1]
    rcases Table.ofServices_cases s.services with ⟨-, table, htable⟩ | ⟨e', problem, he, hhead, habout⟩
    · rw [htable] at herror
      cases herror
    · rw [he] at herror
      cases herror
      exact ⟨problem, hhead, habout⟩
  · rw [Table.ofServices, Table.ofServices, Services.catchAllUrl, hnamed]
    rfl
  · intro path query
    rw [Table.ofServices, Table.ofServices, Services.catchAllUrl, hnamed]
    rfl
  · intro hbad
    rw [← List.filter_filter, (filter_topic_problems s).1, Services.problems, Services.fields, hnamed]
    cases hauth : isHttpBase s.services.authUrl <;> simp [hauth, hbad]

/-- A service behind `https` is refused by both, and by its name. -/
theorem Table.exists_ofServices_iff_problems_https :
    ∃ e, Table.ofServices { authUrl := "https://auth" } = .error e ∧
      e.IsAbout (.serviceUrl "upstreams.auth_url" "https://auth") := by
  have hfirst : ({ services := { authUrl := "https://auth" } } : Settings).problems.find?
      (·.topic = .service) = some (.serviceUrl "upstreams.auth_url" "https://auth") := by
    decide +kernel
  obtain ⟨hbuilt, herror, -⟩ :=
    Table.exists_ofServices_iff_problems { services := { authUrl := "https://auth" } }
  cases htable : Table.ofServices { authUrl := "https://auth" } with
  | ok table =>
      have hnone := hbuilt.1 ⟨table, htable⟩ _ (List.mem_of_find?_eq_some hfirst)
      exact absurd rfl hnone
  | error e =>
      obtain ⟨problem, hfound, habout⟩ := herror e htable
      cases hfirst.symm.trans hfound
      exact ⟨e, rfl, habout⟩

end Gatehouse.Route
