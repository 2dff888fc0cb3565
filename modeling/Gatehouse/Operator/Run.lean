import Gatehouse.Config.Load
import Gatehouse.Json.Parser
import Gatehouse.Operator.Command
import Gatehouse.Proxy.Cycle
import Gatehouse.Token.Issuer
import Gatehouse.Token.Verifier

/-!
# Carrying out commands

What a command prints, or why it fails. Tokens are issued and verified at a given time; the health
probe is one call, made through a network that is given too.
-/

namespace Gatehouse.Operator

open Config (Environment LoadError)
open Files (FileSystem)
open Proxy (Exchange Head)
open Token (Issuer KeyError TokenError Verifier)

/-- Why a command fails. -/
inductive Failure where
  | settings (reason : LoadError)
  | keys (reason : KeyError)
  | token (reason : TokenError)
  /-- The gateway could not be asked, or its answer is no JSON. -/
  | unreachable
  /-- The gateway answered that something is wrong. -/
  | unhealthy (answer : Head)
deriving DecidableEq, Repr

def Failure.message : Failure → String
  | .settings reason => reason.message
  | .keys reason => reason.message
  | .token reason => reason.message?.getD "the token could not be signed"
  | .unreachable => "the gateway gave no answer that can be read"
  | .unhealthy answer =>
    "health check failed with status " ++ String.ofList (Number.digits answer.status)

/-- What a command works with. -/
structure Surroundings where
  files : FileSystem
  env : Environment
  /-- The time in seconds. -/
  now : Int64
  network : Proxy.Network

def issue (around : Surroundings) (settings : Option String) (userId : Int64) (username : String) :
    Except Failure String := do
  let s ← (Config.load around.files around.env settings).mapError .settings
  let issuer ← (Issuer.ofSettings around.files s.jwt).mapError .keys
  let token ← (issuer.issueAt userId username around.now).mapError .token
  pure (token ++ "\n")

/-- Verify a token and show its claims. -/
def verify (around : Surroundings) (settings : Option String) (token : String) :
    Except Failure String := do
  let s ← (Config.load around.files around.env settings).mapError .settings
  let verifier ← (Verifier.ofSettings around.files s.jwt).mapError .keys
  let payload ← (verifier.verifyAt (Text.trim token) around.now).mapError .token
  pure (payload.toJson.pretty ++ "\n")

/-- The call that probes a gateway. -/
def healthCall (url : String) : Proxy.Call where
  method := .get
  url := String.ofList (Text.dropEndWhile (· = '/') url.toList) ++ "/api/health"
  headers := .empty
  body := []

/-- What the answer to a probe tells. Its body matters only when all is well. -/
def readHealth (answer : Head) (body : Exchange (List Bytes)) : Except Failure String :=
  if answer.status < 200 ∨ 300 ≤ answer.status then .error (.unhealthy answer)
  else
    match body with
    | .ends _ (.ok frames) =>
      match (Text.ofUtf8? frames.flatten).bind Json.parse? with
      | some value => .ok (value.canonical.pretty ++ "\n")
      | none => .error .unreachable
    | _ => .error .unreachable

/-- Probe a gateway. There is no deadline. -/
def health (around : Surroundings) (url : String) : Except Failure String :=
  match around.network (healthCall url) with
  | .ends _ (.ok (answer, body)) => readHealth answer body
  | _ => .error .unreachable

/-- Carry out a command and give what it prints. -/
def Invocation.run (around : Surroundings) (invocation : Invocation) : Except Failure String :=
  match invocation.command with
  | .health url => health around url
  | .issue userId username => issue around invocation.settings userId username
  | .verify token => verify around invocation.settings token

end Gatehouse.Operator
