import Gatehouse.Relay.Origin
import Gatehouse.Url.Parser

/-!
# Redirects through the gateway

An absolute URL with a host in a `Location` field is pointed at the inbound origin. The URL parser
only judges whether a value qualifies; everything behind the authority is kept as it is written.
-/

namespace Gatehouse.Relay

/-- The text before and after the first `://`. -/
def splitAuthorityMark : List Char → Option (List Char × List Char)
  | ':' :: '/' :: '/' :: rest => some ([], rest)
  | c :: rest => (splitAuthorityMark rest).map fun (before, after) => (c :: before, after)
  | [] => none

/-- The characters that end the authority of a URL, as any parser may see it. -/
def endsAuthority (c : Char) : Bool := c = '/' || c = '?' || c = '#' || c = '\\'

/-- What follows scheme and authority in an absolute URL with a host. -/
def afterAuthority? (location : String) : Option String :=
  match Url.parse location with
  | .error _ => none
  | .ok url =>
    if url.hasHost then
      match splitAuthorityMark location.toList with
      | none => none
      | some (before, after) =>
        if before.map Char.toLower = url.scheme.toList then
          some (String.ofList (after.dropWhile fun c => !endsAuthority c))
        else none
    else none

/-- A location as the client of an origin should see it. -/
def relocate (location : String) (origin : Origin) : String :=
  match origin.host with
  | none => location
  | some host =>
    match afterAuthority? location with
    | none => location
    | some rest => origin.scheme ++ "://" ++ host ++ rest

end Gatehouse.Relay
