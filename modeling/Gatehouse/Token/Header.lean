import Gatehouse.Json.Raw
import Gatehouse.Token.Algorithm
import Gatehouse.Token.Payload

/-!
# Headers of tokens

The first part of a token names the algorithm it was signed with, and may carry further hints about
the key. The hints are not used, but one of the wrong type spoils the header. Members without a meaning
are skipped, so that the bytes of a header need not be those of a text.
-/

namespace Gatehouse.Token

/-- The names of algorithms that a header may give. -/
def algorithmNames : List String :=
  ["HS256", "HS384", "HS512", "ES256", "ES384", "RS256", "RS384", "RS512", "PS256", "PS384",
    "PS512", "EdDSA"]

/-- The names of algorithms that the description of a key may give. -/
def keyAlgorithmNames : List String :=
  algorithmNames ++ ["RSA1_5", "RSA-OAEP", "RSA-OAEP-256"]

def curveNames : List String := ["P-256", "P-384", "P-521", "Ed25519"]

/-- A choice: its name, or an object whose only member has that name and no value. -/
def choice? (names : List String) (value : Json) : Option String :=
  let name := match value with
    | .str name => some name
    | .obj [(name, .null)] => some name
    | _ => none
  name.filter names.contains

def isString (value : Json) : Bool := (Json.text? value).isSome

def isStringArray : Json → Bool
  | .arr items => items.all isString
  | _ => false

/-- Whether a value is missing or as it should be. -/
def isOptional (p : Json → Bool) : Json → Bool
  | .null => true
  | value => p value

/-- The hints about a key and what their values look like. -/
def keyHints : List (String × (Json → Bool)) :=
  [("use", isOptional isString), ("key_ops", isOptional isStringArray),
    ("alg", isOptional fun value => (choice? keyAlgorithmNames value).isSome),
    ("kid", isOptional isString), ("x5u", isOptional isString), ("x5c", isOptional isStringArray),
    ("x5t", isOptional isString), ("x5t#S256", isOptional isString)]

/-- The kinds of keys, each with the members that make one. -/
def keyForms : List (List (String × (Json → Bool))) :=
  let kind (name : String) : String × (Json → Bool) :=
    ("kty", fun value => (choice? [name] value).isSome)
  let curve : String × (Json → Bool) := ("crv", fun value => (choice? curveNames value).isSome)
  [[kind "EC", curve, ("x", isString), ("y", isString)],
    [kind "RSA", ("n", isString), ("e", isString)],
    [kind "oct", ("k", isString)],
    [kind "OKP", curve, ("x", isString)]]

/-- Check that every member has the right type and that none occurs twice, for the names that have
a type. -/
def checkMembers (types : List (String × (Json → Bool))) (seen : List String) :
    List (String × Json) → Except ClaimProblem Unit
  | [] => .ok ()
  | (name, value) :: members =>
    match types.lookup name with
    | none => checkMembers types seen members
    | some isTyped =>
      if seen.contains name then .error (.duplicate name)
      else if isTyped value then checkMembers types (name :: seen) members
      else .error .malformed

/-- Whether members make a key of a form: each of its members occurs once and has the right type. -/
def hasForm (members : List (String × Json)) (form : List (String × (Json → Bool))) : Bool :=
  form.all fun (name, isTyped) =>
    match members.filter fun member => member.1 = name with
    | [(_, value)] => isTyped value
    | _ => false

def checkKey : Json → Except ClaimProblem Unit
  | .obj members =>
    if members.all fun member => isKept member.2 && member.2.depth < 126 then do
      checkMembers keyHints [] members
      if keyForms.any (hasForm members) then pure () else throw .malformed
    else .error .malformed
  | _ => .error .malformed

structure Header where
  algorithm : String
deriving DecidableEq, Repr

/-- The names in a header that have a meaning, in the order in which an array gives their values. -/
def headerNames : List String :=
  ["typ", "alg", "cty", "jku", "jwk", "kid", "x5u", "x5c", "x5t", "x5t#S256"]

/-- Check one value of a header and give the algorithm if it names one. -/
def checkHint (name : String) (value : Json) : Except ClaimProblem (Option String) :=
  if name = "alg" then
    match choice? algorithmNames value with
    | some algorithm => .ok (some algorithm)
    | none => .error .malformed
  else if value matches .null then .ok none
  else if name = "jwk" then (checkKey value).map fun _ => none
  else if (if name = "x5c" then isStringArray value else isString value) then .ok none
  else .error .malformed

namespace Header

def issued (algorithm : Algorithm) : Json :=
  .obj [("typ", .str "JWT"), ("alg", .str algorithm.name)]

/-- Read members in their order; `seen` are the names read before. -/
def readMembers (seen : List String) (algorithm : Option String) :
    List (String × Json) → Except ClaimProblem (List String × Option String)
  | [] => .ok (seen, algorithm)
  | (name, value) :: members =>
    if !headerNames.contains name then readMembers seen algorithm members
    else if seen.contains name then .error (.duplicate name)
    else
      (checkHint name value).bind fun found =>
        readMembers (name :: seen) (found.orElse fun _ => algorithm) members

/-- The header of an object. -/
def ofOpening (opening : Json.Opening) : Except ClaimProblem Header := do
  let (seen, algorithm) ← readMembers [] none opening.members
  match opening.ending with
  | .closed rest =>
    let algorithm ← required "alg" algorithm
    if Json.skipSpace rest = [] then pure ⟨algorithm⟩ else throw .malformed
  | .named name => throw (if seen.contains name then .duplicate name else .malformed)
  | .broken => throw .malformed

/-- Read the bytes of a header: an object, or the array of all its values. -/
def read (bytes : Bytes) : Except ClaimProblem Header :=
  match Json.Raw.open? headerNames.contains bytes with
  | some opening => ofOpening opening
  | none =>
    match (Text.ofUtf8? bytes).bind Json.parse? with
    | some (.arr items) =>
      if items.length = headerNames.length then do
        let (_, algorithm) ← readMembers [] none (headerNames.zip items)
        (required "alg" algorithm).map fun algorithm => ⟨algorithm⟩
      else .error .malformed
    | _ => .error .malformed

end Header

end Gatehouse.Token
