import Gatehouse.Json.Value

/-!
# TOML values

A document is a table of values. `merge` lays one value over another: tables are merged key by key,
anything else replaces what was there. `toJson` shows a value as JSON, with dates as their text.
-/

namespace Gatehouse

/-- A TOML value. A date or time is kept as its text. -/
inductive Toml where
  | str (text : String)
  | int (value : Int)
  | float (value : Number.Binary64)
  | bool (value : Bool)
  | datetime (text : String)
  | arr (items : List Toml)
  | table (entries : List (String × Toml))
deriving Inhabited, Repr

namespace Toml

/-- Put a value under a key: in place of an old one, else at the end. -/
def setEntry {α : Type} (key : String) (value : α) : List (String × α) → List (String × α)
  | [] => [(key, value)]
  | (other, old) :: rest =>
    if other = key then (key, value) :: rest else (other, old) :: setEntry key value rest

mutual

/-- Lay a value over another. -/
def merge (base : Toml) : Toml → Toml
  | .table overlay =>
    match base with
    | .table entries => .table (mergeEntries entries overlay)
    | _ => .table overlay
  | value => value

/-- Lay the entries of a table over the entries of another, one by one. -/
def mergeEntries (entries : List (String × Toml)) : List (String × Toml) → List (String × Toml)
  | [] => entries
  | (key, value) :: overlay =>
    match entries.lookup key with
    | some old => mergeEntries (setEntry key (merge old value) entries) overlay
    | none => mergeEntries (entries ++ [(key, value)]) overlay

end

def get? (key : String) : Toml → Option Toml
  | .table entries => entries.lookup key
  | _ => none

/-- The value at a path of keys. -/
def at? : List String → Toml → Option Toml
  | [], value => some value
  | key :: path, value => (value.get? key).bind (at? path)

def text? : Toml → Option String
  | .str s => some s
  | _ => none

def isTable : Toml → Bool
  | .table _ => true
  | _ => false

mutual

def toJson : Toml → Json
  | .str s => .str s
  | .int n => .int n
  | .float x => .float x
  | .bool b => .bool b
  | .datetime s => .str s
  | .arr items => .arr (toJsonItems items)
  | .table entries => .obj (toJsonEntries entries)

def toJsonItems : List Toml → List Json
  | [] => []
  | item :: items => toJson item :: toJsonItems items

def toJsonEntries : List (String × Toml) → List (String × Json)
  | [] => []
  | (key, value) :: entries => (key, toJson value) :: toJsonEntries entries

end

end Toml

end Gatehouse
