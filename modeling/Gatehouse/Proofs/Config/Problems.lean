import Gatehouse.Config.Validation

/-!
# Problems of settings

What the problems of settings are about. The problems of one topic are found by looking at the fields of
that topic alone, whatever else is wrong with the settings.
-/

namespace Gatehouse.Config

/-- What a problem is about. -/
inductive Topic where
  | address
  | service
  | range
  | keys
deriving DecidableEq, Repr

def Problem.topic : Problem → Topic
  | .bindAddress _ => .address
  | .serviceUrl .. => .service
  | .zeroProxyTimeout => .range
  | .nonPositiveExpiry => .range
  | .expiryTooLong _ => .range
  | .emptySecret => .keys
  | .developmentSecretInProduction => .keys
  | .missingPublicKey => .keys
  | .zeroBodyLimit => .range
  | .metricsAddress _ => .address

theorem topic_of_mem_problems {services : Services} :
    ∀ problem ∈ services.problems, problem.topic = .service := by
  intro problem hproblem
  obtain ⟨⟨field, value⟩, -, hfound⟩ := List.mem_filterMap.1 hproblem
  cases value with
  | none => cases hfound
  | some value =>
      dsimp only at hfound
      split at hfound
      · cases hfound
      · cases hfound
        rfl

theorem topic_of_mem_expiryProblems {hours : Int64} :
    ∀ problem ∈ expiryProblems hours, problem.topic = .range := by
  unfold expiryProblems
  split
  · simp [Problem.topic]
  · split <;> simp [Problem.topic]

theorem topic_of_mem_keyProblems {jwt : Jwt} {profile : Profile} :
    ∀ problem ∈ jwt.keyProblems profile, problem.topic = .keys := by
  unfold Jwt.keyProblems
  split
  · split
    · simp [Problem.topic]
    · split <;> simp [Problem.topic]
  · dsimp only
    split <;> simp [Problem.topic]

/-- Of problems that are all about one topic, those of a topic are all or none. -/
theorem filter_topic_eq {problems : List Problem} {topic : Topic}
    (hproblems : ∀ problem ∈ problems, problem.topic = topic) (asked : Topic) :
    problems.filter (·.topic = asked) = if topic = asked then problems else [] := by
  split
  · next hsame =>
      refine List.filter_eq_self.2 fun problem hproblem => ?_
      simp [hproblems problem hproblem, hsame]
  · next hother =>
      refine List.filter_eq_nil_iff.2 fun problem hproblem => ?_
      simp [hproblems problem hproblem, hother]

/-- The problems of settings that are about services or keys, by the sections that they concern. -/
theorem filter_topic_problems (s : Settings) :
    s.problems.filter (·.topic = .service) = s.services.problems ∧
      s.problems.filter (·.topic = .keys) = s.jwt.keyProblems s.profile := by
  have hsingle (p : Prop) [Decidable p] (problem : Problem) :
      (∀ found ∈ if p then [] else [problem], found.topic = problem.topic) ∧
        ∀ found ∈ if p then [problem] else [], found.topic = problem.topic := by
    by_cases hp : p <;> simp [hp]
  have hbind := (hsingle (isSocketAddress s.listener.bindAddress = true)
    (.bindAddress s.listener.bindAddress)).1
  have htimeout := (hsingle (s.timeouts.proxySecs = 0) .zeroProxyTimeout).2
  have hbody := (hsingle (s.security.maxBodySize = 0) .zeroBodyLimit).2
  have hmetrics := (hsingle
    ((s.observability.metricsEnabled && !isSocketAddress s.observability.metricsAddress) = true)
    (.metricsAddress s.observability.metricsAddress)).2
  simp only [Settings.problems, List.filter_append, filter_topic_eq hbind, filter_topic_eq htimeout,
    filter_topic_eq hbody, filter_topic_eq hmetrics, filter_topic_eq topic_of_mem_problems,
    filter_topic_eq topic_of_mem_expiryProblems, filter_topic_eq topic_of_mem_keyProblems]
  simp [Problem.topic]

/-! ## Key material -/

/-- Nothing is given for the public key: neither a text that is not blank nor a path. -/
def Jwt.LacksPublicKey (jwt : Jwt) : Prop :=
  (jwt.publicKey.map Text.blank).getD true = true ∧ jwt.publicKeyPath = none

/-- A problem about keys is one of the settings if it is one of their token section. -/
theorem mem_problems_iff_of_topic {s : Settings} {problem : Problem} (hkeys : problem.topic = .keys) :
    problem ∈ s.problems ↔ problem ∈ s.jwt.keyProblems s.profile := by
  rw [← (filter_topic_problems s).2, List.mem_filter, hkeys]
  simp

theorem emptySecret_mem_problems_iff (s : Settings) :
    .emptySecret ∈ s.problems ↔ s.jwt.algorithm = .hs256 ∧ Text.blank s.jwt.secret = true := by
  rw [mem_problems_iff_of_topic rfl]
  unfold Jwt.keyProblems
  split
  · next halgorithm =>
      split
      · next hblank => simp [halgorithm, hblank]
      · next hfilled => split <;> simp [halgorithm, hfilled]
  · next halgorithm =>
      dsimp only
      split <;> simp [halgorithm]

theorem missingPublicKey_mem_problems_iff (s : Settings) :
    .missingPublicKey ∈ s.problems ↔ s.jwt.algorithm = .rs256 ∧ s.jwt.LacksPublicKey := by
  rw [mem_problems_iff_of_topic rfl]
  unfold Jwt.keyProblems Jwt.LacksPublicKey
  split
  · next halgorithm =>
      split
      · simp [halgorithm]
      · split <;> simp [halgorithm]
  · next halgorithm =>
      cases hwritten : s.jwt.publicKey <;> cases hpath : s.jwt.publicKeyPath <;>
        simp [halgorithm]

/-! ## Settings without a problem -/

/-- What holds of settings without a problem, section by section. -/
structure Settings.IsSound (s : Settings) : Prop where
  bindAddress : isSocketAddress s.listener.bindAddress = true
  services : s.services.problems = []
  proxySecs : s.timeouts.proxySecs ≠ 0
  hours_pos : 0 < s.jwt.expiryHours
  hours_le : s.jwt.expiryHours ≤ maxExpiryHours
  keys : s.jwt.keyProblems s.profile = []
  maxBodySize : s.security.maxBodySize ≠ 0
  metricsAddress : s.observability.metricsEnabled = true →
    isSocketAddress s.observability.metricsAddress = true

theorem expiryProblems_eq_nil_iff {hours : Int64} :
    expiryProblems hours = [] ↔ 0 < hours ∧ hours ≤ maxExpiryHours := by
  unfold expiryProblems
  split
  · next hnone => simp [Int64.not_lt.2 hnone]
  · next hsome =>
      split
      · next hlong => simp [Int64.not_le.2 hlong]
      · next hshort => simp [Int64.not_le.1 hsome, Int64.not_lt.1 hshort]

theorem Settings.problems_eq_nil_iff {s : Settings} : s.problems = [] ↔ s.IsSound := by
  have hone {p : Prop} [Decidable p] {problem : Problem} :
      (if p then [] else [problem]) = [] ↔ p := by
    by_cases hp : p <;> simp [hp]
  have hnone {p : Prop} [Decidable p] {problem : Problem} :
      (if p then [problem] else []) = [] ↔ ¬p := by
    by_cases hp : p <;> simp [hp]
  simp only [Settings.problems, List.append_eq_nil_iff, hone, hnone, expiryProblems_eq_nil_iff,
    Bool.and_eq_true, Bool.not_eq_true', not_and, Bool.not_eq_false]
  constructor
  · rintro ⟨⟨⟨⟨⟨⟨hbind, hservices⟩, htimeout⟩, hpos, hle⟩, hkeys⟩, hbody⟩, hmetrics⟩
    exact ⟨hbind, hservices, htimeout, hpos, hle, hkeys, hbody, hmetrics⟩
  · rintro ⟨hbind, hservices, htimeout, hpos, hle, hkeys, hbody, hmetrics⟩
    exact ⟨⟨⟨⟨⟨⟨hbind, hservices⟩, htimeout⟩, hpos, hle⟩, hkeys⟩, hbody⟩, hmetrics⟩

end Gatehouse.Config
