import Gatehouse.Net.SocketAddress
import Gatehouse.Net.Tls

/-!
# Listening

A plain listener takes a socket address or a host name with a port, and whether a host has the name is
for the machine to say. One that ends TLS takes a socket address only, and looks at its files after that.
An address that is taken so far can still be in use, or not be one of the machine's own; that is left to
the network.
-/

namespace Gatehouse.Net

open Files (FileSystem)

/-- Why the gateway cannot listen. -/
inductive ListenError where
  /-- The text names neither a socket address nor a host with a port. -/
  | invalidAddress
  /-- No host has the name. -/
  | unknownHost
  | tls (reason : Tls.TlsError)
deriving DecidableEq, Repr

def ListenError.message : ListenError → String
  | .invalidAddress => "invalid socket address"
  | .unknownHost => "no host has the name"
  | .tls reason => reason.message

/-- How the gateway listens. -/
inductive Listening where
  | http
  | https (address : SocketAddress)
deriving DecidableEq, Repr

/-- The names that a machine finds an address for. -/
abbrev Resolver := String → Bool

/-- A machine that knows no name but its own. -/
def ownNameOnly : Resolver := fun name => name = "localhost"

def checkAddress (knows : Resolver) (text : String) : Except ListenError Unit :=
  if (SocketAddress.parse? text).isSome then .ok ()
  else
    match (Url.splitAt ':' text.toList).reverse with
    | digits :: first :: others =>
      let host := List.intercalate [':'] (first :: others).reverse
      if ((Number.unsigned? digits).filter (· ≤ 65535)).isNone then .error .invalidAddress
      else if knows (String.ofList host) then .ok ()
      else .error .unknownHost
    | _ => .error .invalidAddress

/-- Begin to listen as the settings say. -/
def listen (files : FileSystem) (listener : Config.Listener) (knows : Resolver := ownNameOnly) :
    Except ListenError Listening :=
  match listener.tls with
  | none => (checkAddress knows listener.bindAddress).map fun _ => .http
  | some tls =>
    match SocketAddress.parse? listener.bindAddress with
    | none => .error .invalidAddress
    | some address =>
      match Tls.check files tls with
      | .ok () => .ok (.https address)
      | .error reason => .error (.tls reason)

end Gatehouse.Net
