import Gatehouse.Json.Value

/-!
# Reading records

A record is written as an object, by name, or as an array, by position. An object may hold names that
the record does not know, but none of its own names twice; an array may be shorter than the record.
`Given` tells which value, if any, a record gives for a name.
-/

namespace Gatehouse.Config

/-- The values that a record gives for its names. -/
abbrev Given := String → Option Json

/-- Whether a name of the list occurs among the members more than once. -/
def repeatsName (names : List String) (members : List (String × Json)) : Bool :=
  names.any fun name => 1 < (members.filter fun member => member.1 = name).length

/-- The values that a JSON value gives for the names of a record. -/
def given? (names : List String) : Json → Option Given
  | .obj members => if repeatsName names members then none else some fun name => members.lookup name
  | .arr items =>
    if items.length ≤ names.length then some fun name => (names.zip items).lookup name else none
  | _ => none

/-- A field with a default: the value that is given, if it can be read. -/
def Given.field {α : Type} (given : Given) (name : String) (read : Json → Option α) (default : α) :
    Option α :=
  match given name with
  | none => some default
  | some value => read value

/-- A field that must be given. -/
def Given.required {α : Type} (given : Given) (name : String) (read : Json → Option α) : Option α :=
  (given name).bind read

/-- A field that may be missing or null. -/
def Given.optional {α : Type} (given : Given) (name : String) (read : Json → Option α) :
    Option (Option α) :=
  match given name with
  | none => some none
  | some .null => some none
  | some value => (read value).map some

/-- The name of a variant: a text, or an object of one member whose value is empty by `isEmpty`. -/
def variant? (isEmpty : Json → Bool) : Json → Option String
  | .str s => some s
  | .obj [(name, value)] => if isEmpty value then some name else none
  | _ => none

end Gatehouse.Config
