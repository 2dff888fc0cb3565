import Gatehouse.Config.Load
import Gatehouse.Json.Value
import Gatehouse.Logging.Filter
import Gatehouse.Net.Listener
import Gatehouse.Proxy.Cycle

/-!
# From start to stop

The gateway loads its settings, says what it was told, opens the metrics endpoint, registers its
routes, listens, and stops when it is asked to. `run` gives the events that are logged on the way and
what ended it. Events before the settings are known are lost, since the settings say what is logged. The
machine lets the gateway have the addresses that it asks for; what the network refuses is not told here.
-/

namespace Gatehouse.Lifecycle

open Config (Environment LoadError Settings)
open Files (FileSystem)
open Logging (Level)
open Net (ListenError Listening Resolver SocketAddress)

/-- What asks the gateway to stop. -/
inductive Signal where
  | interrupt
  | terminate
deriving DecidableEq, Repr

def Signal.name : Signal → String
  | .interrupt => "SIGINT"
  | .terminate => "SIGTERM"

/-- An event that may be logged. -/
structure Event where
  /-- The part of the gateway that tells of it. -/
  target : String
  message : String
  fields : List (String × Json)

/-- Why the gateway did not start. -/
inductive StartError where
  | settings (reason : LoadError)
  | metricsAddress
  | routes (reason : Route.RouteError)
  | listening (reason : ListenError)
deriving DecidableEq, Repr

def StartError.message : StartError → String
  | .settings reason => reason.message
  | .metricsAddress => "the metrics address is no socket address"
  | .routes reason => reason.message
  | .listening reason => reason.message

/-- What happened from start to stop. -/
structure Run where
  events : List Event
  result : Except StartError Unit

namespace Run

/-- A run that ends here with an error. -/
def failed (e : StartError) : Run := ⟨[], .error e⟩

/-- Events before those of a run. -/
def after (events : List Event) (run : Run) : Run := { run with events := events ++ run.events }

end Run

def settingsEvents (s : Settings) : List Event :=
  [⟨"todo_gateway", "todo-gateway starting", [("profile", .str s.profile.name)]⟩,
    ⟨"todo_gateway", "Configuration loaded",
      [("bind_address", .str s.listener.bindAddress), ("auth_url", .str s.services.authUrl),
        ("task_url", .str s.services.taskUrl), ("frontend_url", .str s.services.catchAllUrl),
        ("proxy_timeout_secs", .int s.timeouts.proxySecs.toNat),
        ("tls", .bool s.listener.tls.isSome)]⟩]

def routeEvents (table : Route.Table) : List Event :=
  table.targets.map fun target =>
    ⟨"todo_gateway::http::server", "Route registered",
      [("upstream", .str target.name), ("prefix", .str target.pathPrefix.text),
        ("base", .str target.base.text)]⟩

/-- What the gateway says while it listens and when it is asked to stop. -/
def servingEvents (listening : Listening) (signal : Signal) : List Event :=
  let server (message : String) (fields : List (String × Json)) : Event :=
    ⟨"todo_gateway::http::server", message, fields⟩
  let asked : Event :=
    ⟨"todo_gateway::lifecycle::signals", "Shutdown signal received", [("signal", .str signal.name)]⟩
  let around : List Event :=
    match listening with
    | .http => [server "HTTP server starting" [], asked, server "HTTP server stopped" []]
    | .https address =>
      [server "HTTPS server starting" [("address", .str address.text)], asked,
        server "HTTPS server stopped" []]
  around ++ [⟨"todo_gateway", "Shutdown complete", []⟩]

/-- Listen and serve until a signal comes. -/
def serve (files : FileSystem) (knows : Resolver) (s : Settings) (signal : Signal) : Run :=
  match Proxy.Gateway.ofSettings s with
  | .error reason => .failed (.routes reason)
  | .ok gateway =>
    .after (routeEvents gateway.table) <|
      match Net.listen files s.listener knows with
      | .error reason => .failed (.listening reason)
      | .ok listening => ⟨servingEvents listening signal, .ok ()⟩

/-- Open the metrics endpoint if there is to be one, then serve. -/
def measureAndServe (files : FileSystem) (knows : Resolver) (s : Settings) (signal : Signal) : Run :=
  if s.observability.metricsEnabled then
    match SocketAddress.parse? s.observability.metricsAddress with
    | none => .failed .metricsAddress
    | some address =>
      .after
        [⟨"todo_gateway::observability::metrics", "Metrics endpoint listening",
          [("address", .str address.text)]⟩]
        (serve files knows s signal)
  else serve files knows s signal

/-- The directives given from outside if they can be read, else those of the settings. -/
def directives (given : Option String) (s : Settings) : List Logging.Directive :=
  (given.bind Logging.readFilter?).getD
    (Logging.readFilter (Config.logDirectives s.observability.logLevel))

/-- Run the gateway from start to stop. A log filter given from outside replaces that of the
settings. -/
def run (files : FileSystem) (env : Environment) (logFilter path : Option String)
    (signal : Signal) (knows : Resolver := Net.ownNameOnly) : Run :=
  match Config.load files env path with
  | .error reason => .failed (.settings reason)
  | .ok s =>
    let all := Run.after (settingsEvents s) (measureAndServe files knows s signal)
    let logged := directives logFilter s
    { all with events := all.events.filter fun e => Logging.isLogged logged e.target .info }

end Gatehouse.Lifecycle
