import Gatehouse.Json.Parser

/-!
# Claims

The members of a token's payload are judged one after the other, each before the next one is read. A
`ClaimProblem` says what is wrong with the first one that cannot stay.
-/

namespace Gatehouse.Token

/-- What is wrong with the members of an object. -/
inductive ClaimProblem where
  | missing (name : String)
  | duplicate (name : String)
  /-- The expiry lies before the epoch, so that it counts as none. -/
  | noExpiry
  /-- The text is no JSON, or a value has the wrong type. -/
  | malformed
deriving DecidableEq, Repr

/-- The problem in words, where they do not depend on what was found. -/
def ClaimProblem.message? : ClaimProblem → Option String
  | .missing name => some ("missing field `" ++ name ++ "`")
  | .duplicate name => some ("duplicate field `" ++ name ++ "`")
  | .noExpiry => some "missing exp"
  | .malformed => none

/-- The value of a member that may occur once, if it did not occur before and has the right type. -/
def readOnce {α : Type} (name : String) (before found : Option α) : Except ClaimProblem α :=
  match before, found with
  | some _, _ => .error (.duplicate name)
  | none, none => .error .malformed
  | none, some value => .ok value

/-- The value of a member that has to occur. -/
def required {α : Type} (name : String) : Option α → Except ClaimProblem α
  | some value => .ok value
  | none => .error (.missing name)

/-- A value that is kept as it is: not too deep, and without infinite numbers. -/
def isKept (value : Json) : Bool := value.depth < 127 && value.finite

end Gatehouse.Token
