import Gatehouse.Http.Headers
import Gatehouse.Json.Printer

/-!
# Answers

What is sent back: a status, header fields and a body. `framed` makes an answer ready to be sent for a
method: its length is told unless it was told before, and no body follows on HEAD.
-/

namespace Gatehouse.Http

/-- An answer to a request. -/
structure Response where
  status : Nat
  headers : Headers
  body : Bytes
deriving DecidableEq, Repr

namespace Response

def json (status : Nat) (value : Json) : Response where
  status
  headers := Headers.empty.append .contentType (.ofPlain "application/json")
  body := Text.utf8 value.compact

/-- The answer that says what went wrong. -/
def error (status : Nat) (message : String) : Response :=
  json status (.obj [("error", .str message)])

def bare (status : Nat) : Response := ⟨status, Headers.empty, []⟩

/-- Make an answer ready to be sent for a method. -/
def framed (method : Method) (response : Response) : Response where
  status := response.status
  headers :=
    let size := String.ofList (Nat.toDigits 10 response.body.length)
    response.headers.insertIfAbsent .contentLength (.ofPlain size)
  body := if method = .head then [] else response.body

end Response

end Gatehouse.Http
