import Gatehouse.Number.Binary64

/-!
# JSON values

Objects keep their members in the order of the text, repeated names included; `canonical` gives the
value of an object as a map, with sorted names and the last of repeated members.
-/

namespace Gatehouse

inductive Json where
  | null
  | bool (value : Bool)
  | int (value : Int)
  | float (value : Number.Binary64)
  | str (text : String)
  | arr (items : List Json)
  | obj (members : List (String × Json))
deriving Inhabited, Repr

namespace Json

mutual

/-- How deeply arrays and objects are nested. -/
def depth : Json → Nat
  | .arr items => depthItems items + 1
  | .obj members => depthMembers members + 1
  | _ => 0

def depthItems : List Json → Nat
  | [] => 0
  | item :: items => max (depth item) (depthItems items)

def depthMembers : List (String × Json) → Nat
  | [] => 0
  | (_, value) :: members => max (depth value) (depthMembers members)

end

mutual

/-- Whether every number is finite. -/
def finite : Json → Bool
  | .float x => x.isFinite
  | .arr items => finiteItems items
  | .obj members => finiteMembers members
  | _ => true

def finiteItems : List Json → Bool
  | [] => true
  | item :: items => finite item && finiteItems items

def finiteMembers : List (String × Json) → Bool
  | [] => true
  | (_, value) :: members => finite value && finiteMembers members

end

/-- Put a member into a sorted list of members, in place of one of the same name. -/
def insertMember {α : Type} (name : String) (value : α) : List (String × α) → List (String × α)
  | [] => [(name, value)]
  | (other, old) :: rest =>
    if name < other then (name, value) :: (other, old) :: rest
    else if name = other then (name, value) :: rest
    else (other, old) :: insertMember name value rest

/-- The members of an object as a map: sorted by name, the last of each name kept. -/
def sortMembers {α : Type} (members : List (String × α)) : List (String × α) :=
  members.foldl (fun sorted (name, value) => insertMember name value sorted) []

mutual

/-- The value with every object turned into a map. -/
def canonical : Json → Json
  | .arr items => .arr (canonicalItems items)
  | .obj members => .obj (sortMembers (canonicalMembers members))
  | value => value

def canonicalItems : List Json → List Json
  | [] => []
  | item :: items => canonical item :: canonicalItems items

def canonicalMembers : List (String × Json) → List (String × Json)
  | [] => []
  | (name, value) :: members => (name, canonical value) :: canonicalMembers members

end

/-! ## Scalars -/

def text? : Json → Option String
  | .str s => some s
  | _ => none

def bool? : Json → Option Bool
  | .bool b => some b
  | _ => none

def uint64? : Json → Option UInt64
  | .int n => Number.toUInt64? n
  | _ => none

def int64? : Json → Option Int64
  | .int n => Number.toInt64? n
  | _ => none

theorem text?_eq_some_iff {value : Json} {s : String} : value.text? = some s ↔ value = .str s := by
  constructor
  · intro hread
    cases value with
    | str t =>
        cases hread
        rfl
    | _ => cases hread
  · rintro rfl
    rfl

theorem int64?_eq_some_iff {value : Json} {n : Int64} :
    value.int64? = some n ↔ value = .int n.toInt := by
  constructor
  · intro hread
    cases value with
    | int m => rw [Number.toInt64?_eq_some_iff.1 hread]
    | _ => cases hread
  · rintro rfl
    exact Number.toInt64?_toInt n

/-- The value of the first member with a name. -/
def member? (name : String) : Json → Option Json
  | .obj members => members.lookup name
  | _ => none

end Json

end Gatehouse
