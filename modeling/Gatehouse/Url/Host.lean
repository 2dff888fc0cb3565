import Gatehouse.Url.Domain
import Gatehouse.Url.Percent

/-!
# Hosts of URLs

The host of a URL with a special scheme is a domain in ASCII or an address; with any other scheme it
is kept as it is written, up to percent encoding.
-/

namespace Gatehouse

/-- Why a text is not a URL. -/
inductive UrlError where
  | emptyHost
  | domainName
  | portNumber
  | ipv4Address
  | ipv6Address
  | domainCharacter
  | noBase
deriving DecidableEq, Repr

def UrlError.message : UrlError → String
  | .emptyHost => "empty host"
  | .domainName => "invalid international domain name"
  | .portNumber => "invalid port number"
  | .ipv4Address => "invalid IPv4 address"
  | .ipv6Address => "invalid IPv6 address"
  | .domainCharacter => "invalid domain character"
  | .noBase => "relative URL without a base"

namespace Url

inductive Host where
  | name (text : String)
  | ipv4 (address : Nat)
  | ipv6 (pieces : List Nat)
deriving DecidableEq, Repr

namespace Host

/-- The text of a host, brackets included. -/
def text : Host → String
  | .name s => s
  | .ipv4 n => String.ofList (printIpv4 n)
  | .ipv6 pieces => String.ofList ('[' :: printIpv6 pieces ++ [']'])

/-- An address in brackets. -/
def ofBracketed (cs : List Char) : Except UrlError Host :=
  if cs.getLast? = some ']' then
    match ipv6? (cs.drop 1).dropLast with
    | some pieces => .ok (.ipv6 pieces)
    | none => .error .ipv6Address
  else .error .ipv6Address

/-- The host of a URL with a special scheme. -/
def parse (cs : List Char) : Except UrlError Host :=
  if cs.head? = some '[' then ofBracketed cs
  else
    match Text.ofUtf8? (percentDecode (Text.utf8 (String.ofList cs))) with
    | none => .error .domainName
    | some decoded =>
      match domainToAscii? decoded.toList with
      | none => .error .domainName
      | some domain =>
        if domain = [] then .error .emptyHost
        else if endsInNumber domain then
          match ipv4? domain with
          | some n => .ok (.ipv4 n)
          | none => .error .ipv4Address
        else .ok (.name (String.ofList domain))

/-- The characters that a host of unknown form may not hold. -/
def isForbiddenOpaque (c : Char) : Bool :=
  c = '\x00' || c = '\t' || c = '\n' || c = '\r' || c = ' ' || c = '#' || c = '/' || c = ':' ||
    c = '<' || c = '>' || c = '?' || c = '@' || c = '[' || c = '\\' || c = ']' || c = '^' || c = '|'

/-- The host of a URL with a scheme that is not special. -/
def parseOpaque (cs : List Char) : Except UrlError Host :=
  if cs.head? = some '[' then ofBracketed cs
  else if cs.any isForbiddenOpaque then .error .domainCharacter
  else .ok (.name (String.ofList (percentEncode isControl cs)))

end Host

end Url

end Gatehouse
