import Gatehouse.Proofs.Http.TargetParts
import Gatehouse.Proofs.Proxy.Routing
import Gatehouse.Proofs.Route.CallUrl
import Gatehouse.Proofs.Route.Services
import Gatehouse.Proofs.Text.Blank

/-!
# URLs that can be called

The URL that a path resolves to is made of a base URL, which was read as a URL, and of a path and a query,
which were read as parts of a request target. It is called as a request target again. It can be, unless it
has become too long or its host is named with a mark that no target allows, and then its parts are the
ones that it was made of.
-/

namespace Gatehouse.Route

open Http (RequestTarget)
open Http.RequestTarget (HasPlainHost WellWritten)

/-! ## Parts of a URL to call -/

/-- The URL to call is short enough, and its host is named without marks. -/
def Destination.Usable (destination : Destination) : Prop :=
  destination.url.utf8ByteSize ≤ RequestTarget.maxLength ∧ HasPlainHost destination.target.base

theorem Target.authority_ne_empty (target : Target) : target.base.authority ≠ "" := by
  obtain ⟨written, hparsed⟩ := target.base_parsed
  obtain ⟨credentials, host, port, htext, -, hhost, -, -⟩ :=
    Url.exists_authority_eq hparsed target.base_http
  intro hempty
  rw [hempty, String.toList_empty] at htext
  have hrest := (List.append_eq_nil_iff.1 htext.symm).2
  exact hhost.ne_nil (List.append_eq_nil_iff.1 hrest).1

theorem Target.isAuthority_iff (target : Target) :
    RequestTarget.isAuthority target.base.authority.toList = true ↔ HasPlainHost target.base := by
  obtain ⟨written, hparsed⟩ := target.base_parsed
  exact RequestTarget.isAuthority_authority_iff hparsed target.base_http

theorem Target.isPathChar_of_mem_basePath {target : Target} {c : Char}
    (hc : c ∈ target.basePath.toList) : RequestTarget.isPathChar c = true := by
  obtain ⟨written, hparsed⟩ := target.base_parsed
  rw [Target.basePath, String.toList_ofList] at hc
  exact RequestTarget.isPathChar_of_mem_path hparsed target.base_http
    ((Text.dropEndWhile_sublist _ _).subset hc)

/-- Nothing is called that was not in the path. -/
theorem Target.mem_of_mem_calledPath {target : Target} {path : String} {c : Char}
    (hc : c ∈ (target.calledPath path).toList) : c ∈ path.toList := by
  unfold Target.calledPath at hc
  split at hc
  · next hslash =>
      rw [hslash.2, String.toList_append]
      exact List.mem_append_left _ hc
  · exact hc

theorem Target.wellWritten_called {path : String} {query : Option String}
    (hwritten : WellWritten path query) (target : Target) :
    WellWritten (target.basePath ++ target.calledPath path) query := by
  refine ⟨fun c hc => ?_, hwritten.query⟩
  rw [String.toList_append] at hc
  rcases List.mem_append.1 hc with hc | hc
  · exact Target.isPathChar_of_mem_basePath hc
  · exact hwritten.path c (Target.mem_of_mem_calledPath hc)

theorem Target.exists_called_eq (target : Target) {path start : String} (hpath : path = "/" ++ start) :
    ∃ rest, target.basePath ++ target.calledPath path = "/" ++ rest := by
  have hcalled : ∃ rest, target.calledPath path = "/" ++ rest := by
    unfold Target.calledPath
    split
    · exact target.pathPrefix.exists_text_eq
    · exact ⟨start, hpath⟩
  rcases target.basePath_cases with hbase | ⟨before, hbase⟩
  · rw [hbase, String.empty_append]
    exact hcalled
  · rw [hbase, String.append_assoc]
    exact ⟨_, rfl⟩

/-! ## Reading it as a target -/

/-- How the URL to call is read for a path with a leading slash that was read before. -/
theorem Target.parse?_callUrl {target : Target} {path remainder start : String} {query : Option String}
    (hwritten : WellWritten path query) (hpath : path = "/" ++ start)
    (hstrip : target.pathPrefix.strip? path = some remainder) :
    RequestTarget.parse? (target.callUrl remainder query) =
      if RequestTarget.maxLength < (target.callUrl remainder query).utf8ByteSize then none
      else if RequestTarget.isAuthority target.base.authority.toList then
        some ⟨some "http", some target.base.authority, target.basePath ++ target.calledPath path, query⟩
      else none := by
  obtain ⟨rest, hrest⟩ := target.exists_called_eq hpath
  have hparts := (target.wellWritten_called hwritten).pathAndQuery?_eq (by
    rw [hrest]
    exact fun hempty => absurd (congrArg String.toList hempty) (by simp))
  have hurl : target.callUrl remainder query =
      "http://" ++ target.base.authority ++ "/" ++ (rest ++ query.elim "" ("?" ++ ·)) := by
    have hjoined : target.callUrl remainder query = "http://" ++ target.base.authority ++
        (target.basePath ++ target.calledPath path) ++ Target.writtenQuery query := by
      rw [Target.callUrl, Target.callPath_eq_calledPath hpath hstrip, target.origin_eq]
      simp only [String.append_assoc]
    rw [hjoined, hrest]
    cases query with
    | none => simp only [Target.writtenQuery, Option.elim_none, String.append_assoc]
    | some asked => simp only [Target.writtenQuery, Option.elim_some, String.append_assoc]
  have htail : '/' :: (rest ++ query.elim "" ("?" ++ ·)).toList =
      (target.basePath ++ target.calledPath path ++ query.elim "" ("?" ++ ·)).toList := by
    rw [hrest, String.append_assoc]
    simp
  rw [hurl, RequestTarget.parse?_http target.inside_authority, htail, hparts]
  simp only [target.authority_ne_empty, ne_eq, not_false_eq_true, true_and, Option.map_some]

/-- A URL to call is read as it was made, if it is usable; otherwise it is no target. -/
theorem Table.parse?_resolve (table : Table) {path start : String} {query : Option String}
    (hwritten : WellWritten path query) (hpath : path = "/" ++ start) :
    let called := table.resolve path query
    (called.Usable → RequestTarget.parse? called.url =
        some ⟨some "http", some called.target.base.authority,
          called.target.basePath ++ called.target.calledPath path, query⟩) ∧
      (¬called.Usable → RequestTarget.parse? called.url = none) := by
  obtain ⟨target, remainder, -, hstrip, hresolve⟩ := table.resolve_spec path
  have hread := Target.parse?_callUrl hwritten hpath hstrip
  rw [hresolve]
  dsimp only [Destination.Usable]
  rw [hread, ← target.isAuthority_iff, ← Nat.not_lt]
  constructor
  · rintro ⟨hshort, hplain⟩
    rw [if_neg hshort, if_pos hplain]
  · intro hunusable
    split
    · rfl
    · next hshort => exact if_neg fun hplain => hunusable ⟨hshort, hplain⟩

/-- A path resolves to the target that is found for it. -/
theorem Table.resolve_of_find?_eq_some {table : Table} {target : Target} {path remainder : String}
    (hfound : Table.find? table.targets path = some (target, remainder)) (query : Option String) :
    table.resolve path query = ⟨target, target.callUrl remainder query⟩ := by
  rw [Table.resolve, hfound]
  rfl

end Gatehouse.Route

namespace Gatehouse.Proxy

open Config (Services)
open Http (RequestTarget)
open Route (Destination Table Target)

/-- The table of valid settings resolves the path and the query of every request to a URL that can be
called, unless the URL is too long for a target or the host of the service is named with a mark that no
target allows. What is called has the authority of the base URL, its path and the called path behind it,
and the query as it is. In the remaining cases the gateway makes no call and answers that the service is
unavailable. -/
theorem called_url_usable_iff {services : Services} (hnone : services.problems = []) :
    ∃ table, Table.ofServices services = .ok table ∧
      ∀ (written : String) (asked : RequestTarget), RequestTarget.parse? written = some asked →
        asked.path.toList.head? = some '/' →
        let called := table.resolve asked.path asked.query
        (called.Usable → RequestTarget.parse? called.url =
          some ⟨some "http", some called.target.base.authority,
            called.target.basePath ++ called.target.calledPath asked.path, asked.query⟩) ∧
        (¬called.Usable → RequestTarget.parse? called.url = none) ∧
        ∀ (gateway : Gateway) (network : Network) (request : Request), gateway.table = table →
          request.target = asked → request.method ∈ forwardedMethods →
          request.body.frames.flatten.length ≤ gateway.maxBodySize → request.body.broken = false →
          (called.Usable → ∃ call, call.url = called.url ∧
            (gateway.forward network request).calls = [call]) ∧
          (¬called.Usable → (gateway.forward network request).calls = [] ∧
            (gateway.forward network request).response =
              .error 502 "Downstream service unavailable") := by
  obtain ⟨table, hmade⟩ := (Table.exists_ofServices_iff services).2 hnone
  refine ⟨table, hmade, fun written asked hasked hslash => ?_⟩
  obtain ⟨start, hstart⟩ : ∃ start, asked.path.toList = '/' :: start := List.head?_eq_some_iff.1 hslash
  have hpath : asked.path = "/" ++ String.ofList start :=
    String.toList_injective (by rw [hstart]; simp)
  obtain ⟨husable, hunusable⟩ :=
    table.parse?_resolve (RequestTarget.wellWritten_of_parse? hasked) hpath
  refine ⟨husable, hunusable, ?_⟩
  rintro gateway network request rfl rfl hmethod hsize hunbroken
  obtain ⟨hsent, hunsent⟩ := gateway.handle_of_mem network {} request hmethod hsize hunbroken
  refine ⟨fun hcan => ⟨_, rfl, hsent ?_⟩, fun hcannot => hunsent (hunusable hcannot)⟩
  rw [husable hcan]
  exact Option.some_ne_none _

theorem problems_default : ({} : Services).problems = [] := by decide +kernel

/-- The URL for a path and a query of the tasks can be called. -/
theorem called_url_usable_iff_tasks :
    ({} : Services).problems = [] ∧ ∃ table, Table.ofServices {} = .ok table ∧
      RequestTarget.parse? "/api/tasks?page=2" = some ⟨none, none, "/api/tasks", some "page=2"⟩ ∧
      let called := table.resolve "/api/tasks" (some "page=2")
      called.Usable ∧ called.url = "http://task-service:5000/api/tasks?page=2" ∧
        RequestTarget.parse? called.url =
          some ⟨some "http", some called.target.base.authority,
            called.target.basePath ++ called.target.calledPath "/api/tasks", some "page=2"⟩ := by
  have hasked : RequestTarget.parse? "/api/tasks?page=2" =
      some ⟨none, none, "/api/tasks", some "page=2"⟩ := by
    decide +kernel
  obtain ⟨table, hmade, hall⟩ := called_url_usable_iff problems_default
  obtain ⟨auth, tasks, frontend, -, htasks, -, htargets⟩ := Table.targets_of_ofServices hmade
  have hstrip : tasks.pathPrefix.strip? "/api/tasks" = some "" := by
    rw [Target.pathPrefix_of_create htasks]
    decide +kernel
  have hfound : Table.find? table.targets "/api/tasks" = some (tasks, "") := by
    rw [htargets, Table.find?, List.findSome?_cons, hstrip]
    rfl
  have hbase : ((Target.create "tasks" "/api/tasks" ({} : Services).taskUrl).toOption.map fun target =>
      (target.callUrl "" (some "page=2"), target.base.host)) =
        some ("http://task-service:5000/api/tasks?page=2", some (.name "task-service")) := by
    decide +kernel
  rw [htasks] at hbase
  obtain ⟨hurl, hhost⟩ := Prod.mk.inj (Option.some.inj hbase)
  have hresolve := Table.resolve_of_find?_eq_some hfound (some "page=2")
  have husable : (table.resolve "/api/tasks" (some "page=2")).Usable := by
    rw [hresolve]
    refine ⟨?_, fun host hnamed => ?_⟩
    · dsimp only
      rw [hurl]
      decide
    · cases hhost.symm.trans hnamed
      have hplain : "task-service".toList.all (· ∉ RequestTarget.hostMarks) = true := by decide
      exact fun c hc => of_decide_eq_true (List.all_eq_true.1 hplain c hc)
  refine ⟨problems_default, table, hmade, hasked, husable, ?_, (hall _ _ hasked rfl).1 husable⟩
  rw [hresolve]
  exact hurl

/-! ## Where a URL is not called as it was asked for -/

/-- Whatever the services make of a target that was asked for, what is called is its path behind the base
URL, and its query. -/
def CalledAsAsked (services : Services) (written : String) : Prop :=
  ∀ (table : Table) (asked : RequestTarget), Table.ofServices services = .ok table →
    RequestTarget.parse? written = some asked → asked.path.toList.head? = some '/' →
    let called := table.resolve asked.path asked.query
    RequestTarget.parse? called.url =
      some ⟨some "http", some called.target.base.authority, called.target.basePath ++ asked.path,
        asked.query⟩

/-- How the URL that is known to be called would have to be read then. -/
theorem CalledAsAsked.parse?_url {services : Services} {written url : String}
    (hall : CalledAsAsked services written) {table : Table} {asked : RequestTarget} {target : Target}
    (hmade : Table.ofServices services = .ok table) (hasked : RequestTarget.parse? written = some asked)
    (hslash : asked.path.toList.head? = some '/')
    (hresolve : table.resolve asked.path asked.query = ⟨target, url⟩) :
    RequestTarget.parse? url =
      some ⟨some "http", some target.base.authority, target.basePath ++ asked.path, asked.query⟩ := by
  have hcalled := hall table asked hmade hasked hslash
  dsimp only at hcalled
  rwa [hresolve] at hcalled

/-- A frontend with a mark in the name of its host. -/
def markedServices : Services := { frontendUrl := some "http://a\"b" }

theorem problems_markedServices : markedServices.problems = [] := by decide +kernel

theorem not_calledAsAsked_marked : ¬CalledAsAsked markedServices "/" := by
  intro hall
  obtain ⟨table, hmade⟩ := (Table.exists_ofServices_iff markedServices).2 problems_markedServices
  obtain ⟨auth, tasks, frontend, hauth, htasks, hfrontend, htargets⟩ :=
    Table.targets_of_ofServices hmade
  have hnotTasks : tasks.pathPrefix.strip? "/" = none := by
    rw [Target.pathPrefix_of_create htasks]
    decide +kernel
  have hnotAuth : auth.pathPrefix.strip? "/" = none := by
    rw [Target.pathPrefix_of_create hauth]
    decide +kernel
  have hstrip : frontend.pathPrefix.strip? "/" = some "" := by
    rw [Target.pathPrefix_of_create hfrontend]
    decide +kernel
  have hfound : Table.find? table.targets "/" = some (frontend, "") := by
    rw [htargets, Table.find?, List.findSome?_cons, hnotTasks, List.findSome?_cons, hnotAuth,
      List.findSome?_cons, hstrip]
    rfl
  have hmapped : ((Target.create "frontend" "/" markedServices.catchAllUrl).toOption.map fun target =>
      target.callUrl "" none) = some "http://a\"b/" := by
    decide +kernel
  rw [hfrontend] at hmapped
  have hurl : frontend.callUrl "" none = "http://a\"b/" := Option.some.inj hmapped
  have hasked : RequestTarget.parse? "/" = some ⟨none, none, "/", none⟩ := by decide +kernel
  have hunread : RequestTarget.parse? "http://a\"b/" = none := by decide +kernel
  have hcalled := hall.parse?_url hmade hasked rfl (Table.resolve_of_find?_eq_some hfound none)
  rw [hurl, hunread] at hcalled
  cases hcalled

theorem not_calledAsAsked_slash : ¬CalledAsAsked {} "/api/auth/" := by
  intro hall
  obtain ⟨table, hmade⟩ := (Table.exists_ofServices_iff {}).2 problems_default
  obtain ⟨auth, tasks, frontend, hauth, htasks, -, htargets⟩ := Table.targets_of_ofServices hmade
  have hnotTasks : tasks.pathPrefix.strip? "/api/auth/" = none := by
    rw [Target.pathPrefix_of_create htasks]
    decide +kernel
  have hstrip : auth.pathPrefix.strip? "/api/auth/" = some "" := by
    rw [Target.pathPrefix_of_create hauth]
    decide +kernel
  have hfound : Table.find? table.targets "/api/auth/" = some (auth, "") := by
    rw [htargets, Table.find?, List.findSome?_cons, hnotTasks, List.findSome?_cons, hstrip]
    rfl
  have hmapped : ((Target.create "auth" "/api/auth" ({} : Services).authUrl).toOption.map fun target =>
      target.callUrl "" none) = some "http://auth-service:5000/api/auth" := by
    decide +kernel
  rw [hauth] at hmapped
  have hurl : auth.callUrl "" none = "http://auth-service:5000/api/auth" := Option.some.inj hmapped
  have hasked : RequestTarget.parse? "/api/auth/" = some ⟨none, none, "/api/auth/", none⟩ := by
    decide +kernel
  have hread : RequestTarget.parse? "http://auth-service:5000/api/auth" =
      some ⟨some "http", some "auth-service:5000", "/api/auth", none⟩ := by
    decide +kernel
  have hcalled := hall.parse?_url hmade hasked rfl (Table.resolve_of_find?_eq_some hfound none)
  rw [hurl, hread] at hcalled
  obtain ⟨-, -, hpath, -⟩ := RequestTarget.mk.inj (Option.some.inj hcalled)
  dsimp only at hpath
  -- The called path is shorter than the one that was asked for.
  have hsize := congrArg String.utf8ByteSize hpath
  have hcalledSize : "/api/auth".utf8ByteSize = 9 := by decide
  have haskedSize : "/api/auth/".utf8ByteSize = 10 := by decide
  rw [String.utf8ByteSize_append] at hsize
  omega

/-- A path that is as long as a target may be is too long behind any base URL. -/
theorem not_calledAsAsked_of_longest {services : Services} (hnone : services.problems = [])
    {path start : String} (hwritten : RequestTarget.WellWritten path none) (hpath : path = "/" ++ start)
    (hend : ∀ before, path ≠ before ++ "/")
    (hsize : path.utf8ByteSize = RequestTarget.maxLength) : ¬CalledAsAsked services path := by
  intro hall
  obtain ⟨table, hmade⟩ := (Table.exists_ofServices_iff services).2 hnone
  have hasked : RequestTarget.parse? path = some ⟨none, none, path, none⟩ := by
    have hself := hwritten.parse?_eq hpath
    simp only [Option.elim_none, String.append_empty] at hself
    exact hself (by omega)
  obtain ⟨target, remainder, -, hstrip, hresolve⟩ := table.resolve_spec path
  have hlong : RequestTarget.maxLength < (target.callUrl remainder none).utf8ByteSize := by
    have hcalled : target.calledPath path = path := if_neg fun hslash => hend _ hslash.2
    have hscheme : "http://".utf8ByteSize = 7 := by decide
    rw [Target.callUrl, Target.callPath_eq_calledPath hpath hstrip, hcalled, target.origin_eq]
    simp only [String.utf8ByteSize_append]
    omega
  have hhead : path.toList.head? = some '/' := by simp [hpath]
  have hcalled := hall.parse?_url hmade hasked hhead (hresolve none)
  rw [RequestTarget.parse?_of_long hlong] at hcalled
  cases hcalled

/-- A path that is as long as a target may be. -/
def longestPath : String := "/" ++ (String.ofList (List.replicate 65532 'a') ++ "a")

theorem utf8ByteSize_longestPath : longestPath.utf8ByteSize = RequestTarget.maxLength := by
  have hsize (n : Nat) : (String.ofList (List.replicate n 'a')).utf8ByteSize = n := by
    induction n with
    | zero => rfl
    | succ n ih =>
        rw [List.replicate_succ', String.ofList_append, String.utf8ByteSize_append, ih]
        rfl
  rw [longestPath, String.utf8ByteSize_append, String.utf8ByteSize_append, hsize]
  rfl

theorem not_calledAsAsked_long : ¬CalledAsAsked {} longestPath := by
  have hend (text before : String) : "/" ++ (text ++ "a") ≠ before ++ "/" := by
    intro hslash
    have hletter : ("/" ++ (text ++ "a")).toList = ('/' :: text.toList) ++ ['a'] := by simp
    have hlast : (('/' :: text.toList) ++ ['a']).getLast? = (before.toList ++ ['/']).getLast? := by
      rw [← hletter, hslash, String.toList_append]
      rfl
    rw [List.getLast?_concat, List.getLast?_concat] at hlast
    cases hlast
  refine not_calledAsAsked_of_longest problems_default ⟨fun c hc => ?_, nofun⟩ rfl
    (hend _) utf8ByteSize_longestPath
  · simp only [longestPath, String.toList_append, String.toList_ofList, List.mem_append] at hc
    rcases hc with hc | hc | hc
    · rw [List.mem_singleton.1 hc]
      decide
    · rw [List.eq_of_mem_replicate hc]
      decide
    · rw [List.mem_singleton.1 hc]
      decide

/-- What is called is not always what was asked for: a mark in the name of a host and a URL beyond the
greatest length make it no target, and behind a prefix a single slash is lost. -/
theorem not_called_as_asked :
    (markedServices.problems = [] ∧ ¬CalledAsAsked markedServices "/") ∧
      (({} : Services).problems = [] ∧ ¬CalledAsAsked {} "/api/auth/" ∧
        ¬CalledAsAsked {} longestPath) ∧
      ¬∀ services : Services, services.problems = [] → ∀ written, CalledAsAsked services written := by
  refine ⟨⟨problems_markedServices, not_calledAsAsked_marked⟩,
    ⟨problems_default, not_calledAsAsked_slash, not_calledAsAsked_long⟩, fun hall => ?_⟩
  exact not_calledAsAsked_marked (hall markedServices problems_markedServices "/")

end Gatehouse.Proxy
