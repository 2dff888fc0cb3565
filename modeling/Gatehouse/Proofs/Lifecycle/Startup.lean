import Gatehouse.Lifecycle.Startup
import Gatehouse.Proofs.Config.Problems
import Gatehouse.Proofs.Route.Services
import Gatehouse.Proofs.Token.Keys
import Gatehouse.Proofs.Token.RoundTrip

/-!
# What validation spares a start

Settings without a problem make a gateway, and their addresses are read again without an error. Their
keys are not missing, and their tokens live for a number of hours that no second can overflow. What can
still go wrong lies outside the settings: the files that they name, and the network.
-/

namespace Gatehouse.Lifecycle

open Config (Problem Settings isSocketAddress maxExpiryHours)
open Files (FileSystem)
open Net (Resolver SocketAddress)
open Token (Issuer KeySet KeyRole)

/-! ## Gateway and addresses -/

theorem exists_gateway_iff {s : Settings} :
    (∃ gateway, Proxy.Gateway.ofSettings s = .ok gateway) ↔ s.services.problems = [] := by
  rw [← Route.Table.exists_ofServices_iff, Proxy.Gateway.ofSettings]
  cases Route.Table.ofServices s.services with
  | ok table => exact ⟨fun _ => ⟨table, rfl⟩, fun _ => ⟨_, rfl⟩⟩
  | error e =>
      constructor
      · rintro ⟨gateway, h⟩
        cases h
      · rintro ⟨table, h⟩
        cases h

/-- A listener with a socket address can only fail at its files. -/
theorem exists_tls_of_listen {files : FileSystem} {listener : Config.Listener} {knows : Resolver}
    (haddress : isSocketAddress listener.bindAddress = true) {e : Net.ListenError}
    (hfailed : Net.listen files listener knows = .error e) : ∃ reason, e = .tls reason := by
  unfold Net.listen at hfailed
  split at hfailed
  · have hchecked : Net.checkAddress knows listener.bindAddress = .ok () := if_pos haddress
    rw [hchecked] at hfailed
    cases hfailed
  · split at hfailed
    · next hnone =>
        rw [isSocketAddress, hnone] at haddress
        cases haddress
    · split at hfailed
      · cases hfailed
      · cases hfailed
        exact ⟨_, rfl⟩

theorem Run.result_after (events : List Event) (run : Run) : (run.after events).result = run.result :=
  rfl

/-- What stops a start that has its settings, when a text among them cannot be read: an address, or the
services behind the routes. -/
inductive StartError.ByText : StartError → Prop where
  | metricsAddress : ByText .metricsAddress
  | routes (reason : Route.RouteError) : ByText (.routes reason)
  | bindAddress : ByText (.listening .invalidAddress)
  | host : ByText (.listening .unknownHost)

/-- No text of settings without a problem stops them from being served. -/
theorem not_byText_of_measureAndServe {files : FileSystem} {knows : Resolver} {s : Settings}
    (hsound : s.IsSound) {signal : Signal} {e : StartError}
    (hfailed : (measureAndServe files knows s signal).result = .error e) : ¬e.ByText := by
  obtain ⟨gateway, hgateway⟩ := exists_gateway_iff.2 hsound.services
  have hserve (hfailed : (serve files knows s signal).result = .error e) : ¬e.ByText := by
    rw [serve, hgateway] at hfailed
    dsimp only at hfailed
    rw [Run.result_after] at hfailed
    split at hfailed
    · next reason hlisten =>
        cases hfailed
        obtain ⟨tls, rfl⟩ := exists_tls_of_listen hsound.bindAddress hlisten
        rintro ⟨⟩
    · cases hfailed
  unfold measureAndServe at hfailed
  split at hfailed
  · next henabled =>
      obtain ⟨address, haddress⟩ := Option.isSome_iff_exists.1 (hsound.metricsAddress henabled)
      rw [haddress] at hfailed
      dsimp only at hfailed
      rw [Run.result_after] at hfailed
      exact hserve hfailed
  · exact hserve hfailed

/-! ## Tokens -/

/-- With hours in bounds, no second that leaves room for the longest life makes a request for a token
a bad one. -/
theorem issueAt_ne_invalidInput {issuer : Issuer} (hpos : 0 < issuer.expiryHours)
    (hle : issuer.expiryHours ≤ maxExpiryHours) {userId : Int64} {username : String}
    {issuedAt : Int64} (huser : 0 < userId) (hname : Text.blank username = false)
    (hroom : issuedAt.toInt ≤ Int64.maxValue.toInt - 3600 * maxExpiryHours.toInt)
    (problem : Token.InputProblem) :
    issuer.issueAt userId username issuedAt ≠ .error (.invalidInput problem) := by
  have hmax : maxExpiryHours.toInt = 87840 := by decide
  have hhours : 0 < issuer.expiryHours.toInt := Int64.lt_iff_toInt_lt.1 hpos
  have hbound : issuer.expiryHours.toInt ≤ 87840 := hmax ▸ Int64.le_iff_toInt_le.1 hle
  have hlow := issuedAt.le_toInt
  rw [hmax, Int64.toInt_maxValue] at hroom
  obtain ⟨exp, hexp⟩ : ∃ exp : Int64, exp.toInt = issuedAt.toInt + issuer.expiryHours.toInt * 3600 :=
    ⟨Int64.ofInt _, Int64.toInt_ofInt_of_le (by omega) (by omega)⟩
  have hlifetime : issuer.expiryHours.toInt * 3600 ≤ Int64.maxValue.toInt := by
    rw [Int64.toInt_maxValue]
    omega
  rw [Issuer.issueAt, issuer.payloadAt_eq huser hname hpos hlifetime hexp]
  exact KeySet.tokenOf_ne_invalidInput

/-! ## Settings without a problem -/

/-- Settings without a problem make a gateway; their addresses are socket addresses, so that no start
fails because a text among them cannot be read; no key is missing, a secret signs, and no request for a
token that names a user is a bad one while there is room for the longest life. Whatever the settings,
the secret is missing exactly when validation finds it empty, and the public key exactly when
validation misses it too. -/
theorem usable_of_problems_eq_nil (files : FileSystem) (s : Settings) :
    (s.problems = [] →
      (∃ gateway, Proxy.Gateway.ofSettings s = .ok gateway) ∧
      (∃ address, SocketAddress.parse? s.listener.bindAddress = some address) ∧
      (s.observability.metricsEnabled = true →
        ∃ address, SocketAddress.parse? s.observability.metricsAddress = some address) ∧
      (∀ knows signal e, (measureAndServe files knows s signal).result = .error e →
        ¬e.ByText) ∧
      (∀ role, KeySet.ofSettings files s.jwt ≠ .error (.missing role)) ∧
      (s.jwt.algorithm = .hs256 →
        ∃ keys, KeySet.ofSettings files s.jwt = .ok keys ∧ keys.canSign = true) ∧
      ∀ issuer, Issuer.ofSettings files s.jwt = .ok issuer →
        ∀ (userId : Int64) (username : String) (issuedAt : Int64), 0 < userId →
          Text.blank username = false →
          issuedAt.toInt ≤ Int64.maxValue.toInt - 3600 * maxExpiryHours.toInt →
          ∀ problem, issuer.issueAt userId username issuedAt ≠ .error (.invalidInput problem)) ∧
    (KeySet.ofSettings files s.jwt = .error (.missing .secret) ↔ .emptySecret ∈ s.problems) ∧
    (KeySet.ofSettings files s.jwt = .error (.missing .publicKey) ↔
      .missingPublicKey ∈ s.problems) := by
  have hsecret : KeySet.ofSettings files s.jwt = .error (.missing .secret) ↔
      .emptySecret ∈ s.problems := by
    rw [KeySet.ofSettings_eq_missing_iff, Config.emptySecret_mem_problems_iff]
    simp
  have hpublic : KeySet.ofSettings files s.jwt = .error (.missing .publicKey) ↔
      .missingPublicKey ∈ s.problems := by
    rw [KeySet.ofSettings_eq_missing_iff, Config.missingPublicKey_mem_problems_iff,
      Config.Jwt.LacksPublicKey]
    simp
  refine ⟨fun hnone => ?_, hsecret, hpublic⟩
  have hsound := Config.Settings.problems_eq_nil_iff.1 hnone
  have hclear (problem : Problem) : problem ∉ s.problems := by
    rw [hnone]
    exact List.not_mem_nil
  refine ⟨exists_gateway_iff.2 hsound.services, Option.isSome_iff_exists.1 hsound.bindAddress,
    fun henabled => Option.isSome_iff_exists.1 (hsound.metricsAddress henabled),
    fun knows signal e => not_byText_of_measureAndServe hsound, ?_, ?_, ?_⟩
  · intro role hmissing
    cases role with
    | secret => exact hclear _ (hsecret.1 hmissing)
    | publicKey => exact hclear _ (hpublic.1 hmissing)
    | privateKey => simpa using KeySet.ofSettings_eq_missing_iff.1 hmissing
  · intro halgorithm
    have hfilled : Text.blank s.jwt.secret = false := by
      refine Bool.eq_false_iff.2 fun hblank => ?_
      exact hclear _ ((Config.emptySecret_mem_problems_iff s).2 ⟨halgorithm, hblank⟩)
    exact ⟨_, KeySet.ofSettings_of_filled halgorithm hfilled, rfl⟩
  · intro issuer hissuer userId username issuedAt huser hname hroom
    obtain ⟨keys, -, rfl⟩ := map_eq_ok_iff.1 hissuer
    have hpos : 0 < (⟨keys, s.jwt.expiryHours⟩ : Issuer).expiryHours := hsound.hours_pos
    have hle : (⟨keys, s.jwt.expiryHours⟩ : Issuer).expiryHours ≤ maxExpiryHours := hsound.hours_le
    exact issueAt_ne_invalidInput hpos hle huser hname hroom

/-- The settings of the testing profile have no problem, and their secret signs. -/
theorem usable_of_problems_eq_nil_testing :
    (Settings.forProfile .testing).problems = [] ∧
      ∃ keys, KeySet.ofSettings (.ofReads []) (Settings.forProfile .testing).jwt = .ok keys ∧
        keys.canSign = true := by
  have hnone : (Settings.forProfile .testing).problems = [] := by decide +kernel
  obtain ⟨-, -, -, -, -, hsigns, -⟩ := (usable_of_problems_eq_nil (.ofReads []) _).1 hnone
  exact ⟨hnone, hsigns rfl⟩

end Gatehouse.Lifecycle
