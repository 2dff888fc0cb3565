import Gatehouse.Route.PathPrefix
import Gatehouse.Text.Quoted
import Gatehouse.Url.Parser

/-!
# Targets

A target is a service behind the gateway: its name, the prefix of the paths it serves, and its base
URL, which must be `http` with a host. `callUrl` builds the URL to call from the remainder of a path.
-/

namespace Gatehouse.Route

/-- Why no table of targets can be made. -/
inductive RouteError where
  | invalidBase (name value : String) (reason : UrlError)
  | unsupportedScheme (name value : String)
  | missingCatchAll
  | duplicatePrefix (text : String)
deriving DecidableEq, Repr

def RouteError.message : RouteError → String
  | .invalidBase name value reason =>
    "target " ++ name ++ ": invalid base URL " ++ Text.quoted value ++ ": " ++ reason.message
  | .unsupportedScheme name value =>
    "target " ++ name ++ ": base URL must be http:// with a host, got " ++ Text.quoted value
  | .missingCatchAll => "route table has no catch-all target"
  | .duplicatePrefix text =>
    "prefix " ++ Text.quoted text ++ " is claimed by more than one target"

/-- A service behind the gateway. -/
structure Target where
  name : String
  pathPrefix : PathPrefix
  base : Url
  base_parsed : ∃ written, Url.parse written = .ok base
  base_http : base.scheme = "http"
  base_hasHost : base.hasHost = true
deriving DecidableEq, Repr

namespace Target

/-- The target with a name, a prefix and a base URL, all as written. -/
def create (name pathPrefix base : String) : Except RouteError Target :=
  match hparsed : Url.parse base with
  | .error reason => .error (.invalidBase name base reason)
  | .ok url =>
    if hserved : url.scheme = "http" ∧ url.hasHost then
      .ok
        { name
          pathPrefix := .ofString pathPrefix
          base := url
          base_parsed := ⟨base, hparsed⟩
          base_http := hserved.1
          base_hasHost := hserved.2 }
    else .error (.unsupportedScheme name base)

/-- The path of the base URL without final slashes. -/
def basePath (target : Target) : String :=
  String.ofList (Text.dropEndWhile isSlash target.base.path.toList)

/-- The prefix and a remainder of a path, joined again. -/
def callPath (target : Target) (remainder : String) : String :=
  let served := if target.pathPrefix.isCatchAll then "" else target.pathPrefix.text
  let rest :=
    if remainder ≠ "" ∨ target.pathPrefix.isCatchAll then "/" ++ remainder else ""
  served ++ rest

/-- A query as it stands behind a path. -/
def writtenQuery : Option String → String
  | some query => "?" ++ query
  | none => ""

/-- The URL to call for a remainder of a path and a query. Nothing of either is encoded again. -/
def callUrl (target : Target) (remainder : String) (query : Option String) : String :=
  target.base.origin ++ target.basePath ++ target.callPath remainder ++ writtenQuery query

end Target

end Gatehouse.Route
