import Gatehouse.Proxy.Rejection

/-!
# Bodies of requests

A body comes in frames, and its stream may break off. It is read as a whole, as long as it stays within
a limit: what is left of the limit shrinks with every frame.
-/

namespace Gatehouse.Proxy

/-- The body of a request as it comes in. -/
structure Body where
  frames : List Bytes
  /-- Whether the stream breaks off after the frames. -/
  broken : Bool := false
deriving DecidableEq, Repr

namespace Body

def ofBytes (bytes : Bytes) : Body := { frames := [bytes] }

/-- Read frames into at most `budget` bytes. -/
def readFrames (broken : Bool) (budget : Nat) : List Bytes → Except Rejection Bytes
  | [] => if broken then .error .invalidBody else .ok []
  | frame :: frames =>
    if frame.length ≤ budget then
      (readFrames broken (budget - frame.length) frames).map fun bytes => frame ++ bytes
    else .error .payloadTooLarge

/-- The bytes of a body of at most `limit` bytes. -/
def read (limit : Nat) (body : Body) : Except Rejection Bytes :=
  readFrames body.broken limit body.frames

end Body

end Gatehouse.Proxy
