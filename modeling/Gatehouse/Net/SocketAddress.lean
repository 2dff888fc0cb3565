import Gatehouse.Url.Address

/-!
# Socket addresses

An IP address with a port. The address is written in full, an IPv6 address in brackets and possibly
with a numeric zone.
-/

namespace Gatehouse.Net

/-- An IP address with a port. -/
inductive SocketAddress where
  | v4 (address : List Nat) (port : Nat)
  | v6 (pieces : List Nat) (zone port : Nat)
deriving DecidableEq, Repr

namespace SocketAddress

/-- A port: digits, leading zeros allowed, at most 65535. -/
def port? (cs : List Char) : Option Nat :=
  (Number.natural? cs).filter (· ≤ 65535)

/-- One byte of an IPv4 address: one to three digits without a leading zero, at most 255. -/
def byte? (cs : List Char) : Option Nat :=
  if cs.length ≤ 3 then Url.tailByte? cs else none

/-- The pieces and the zone between brackets. -/
def bracketed? (cs : List Char) : Option (List Nat × Nat) :=
  let address := cs.takeWhile (· ≠ '%')
  match cs.dropWhile (· ≠ '%') with
  | [] => (Url.ipv6? address).map fun pieces => (pieces, 0)
  | _ :: zone => do
    let pieces ← Url.ipv6? address
    let zone ← (Number.natural? zone).filter (· < UInt32.size)
    pure (pieces, zone)

def parse? (s : String) : Option SocketAddress :=
  match s.toList with
  | '[' :: rest =>
    let inside := rest.takeWhile (· ≠ ']')
    match rest.drop inside.length with
    | ']' :: ':' :: digits => do
      let (pieces, zone) ← bracketed? inside
      let port ← port? digits
      pure (.v6 pieces zone port)
    | _ => none
  | cs =>
    match Url.splitAt ':' cs with
    | [address, digits] =>
      match (Url.splitAt '.' address).mapM byte? with
      | some [a, b, c, d] => (port? digits).map (.v4 [a, b, c, d])
      | _ => none
    | _ => none

/-- Bytes in decimal with dots between them. -/
def dotted (bytes : List Nat) : List Char :=
  List.intercalate ['.'] (bytes.map Number.digits)

/-- The text of a socket address. An IPv4 address inside an IPv6 one keeps its dots. -/
def text (address : SocketAddress) : String :=
  String.ofList <|
    match address with
    | .v4 bytes port => dotted bytes ++ ':' :: Number.digits port
    | .v6 pieces zone port =>
      let shown :=
        match pieces with
        | [0, 0, 0, 0, 0, 0xFFFF, high, low] =>
          [':', ':', 'f', 'f', 'f', 'f', ':'] ++
            dotted [high / 256, high % 256, low / 256, low % 256]
        | _ => Url.printIpv6 pieces
      let mark := if zone = 0 then [] else '%' :: Number.digits zone
      '[' :: shown ++ mark ++ [']', ':'] ++ Number.digits port

end SocketAddress

end Gatehouse.Net
