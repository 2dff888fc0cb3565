import Gatehouse.Json.Value

/-!
# Writing JSON

The compact form has no blanks at all; the indented form puts each item and member on its own line,
two spaces deeper than what holds it. `Gatehouse.Json.Parser` reads both back.
-/

namespace Gatehouse.Json

/-- A character inside a JSON string. -/
def escapeChar (c : Char) : List Char :=
  if c = '"' then ['\\', '"']
  else if c = '\\' then ['\\', '\\']
  else if c = '\x08' then ['\\', 'b']
  else if c = '\x0c' then ['\\', 'f']
  else if c = '\n' then ['\\', 'n']
  else if c = '\r' then ['\\', 'r']
  else if c = '\t' then ['\\', 't']
  else if c.toNat < 0x20 then
    ['\\', 'u', '0', '0', Nat.digitChar (c.toNat / 16), Nat.digitChar (c.toNat % 16)]
  else [c]

def printString (s : String) : List Char :=
  '"' :: s.toList.flatMap escapeChar ++ ['"']

mutual

/-- The compact form of a value. -/
def print : Json → List Char
  | .null => ['n', 'u', 'l', 'l']
  | .bool true => ['t', 'r', 'u', 'e']
  | .bool false => ['f', 'a', 'l', 's', 'e']
  | .int n => Number.signed n
  | .float x => x.render
  | .str s => printString s
  | .arr [] => ['[', ']']
  | .arr (item :: items) => '[' :: print item ++ printItems items
  | .obj [] => ['\x7b', '\x7d']
  | .obj ((name, value) :: members) =>
    '\x7b' :: printString name ++ ':' :: print value ++ printMembers members

/-- Further items and the closing bracket. -/
def printItems : List Json → List Char
  | [] => [']']
  | item :: items => ',' :: print item ++ printItems items

/-- Further members and the closing brace. -/
def printMembers : List (String × Json) → List Char
  | [] => ['\x7d']
  | (name, value) :: members =>
    ',' :: printString name ++ ':' :: print value ++ printMembers members

end

/-- A line break and the indentation of a level. -/
def newline (level : Nat) : List Char :=
  '\n' :: List.replicate (2 * level) ' '

mutual

/-- The indented form of a value that stands at a level. -/
def printIndented (level : Nat) : Json → List Char
  | .arr [] => ['[', ']']
  | .arr (item :: items) =>
    '[' :: newline (level + 1) ++ printIndented (level + 1) item ++ printIndentedItems level items
  | .obj [] => ['\x7b', '\x7d']
  | .obj ((name, value) :: members) =>
    '\x7b' :: newline (level + 1) ++ printString name ++ [':', ' '] ++
      printIndented (level + 1) value ++ printIndentedMembers level members
  | value => print value

/-- Further items on lines of their own, and the closing bracket. -/
def printIndentedItems (level : Nat) : List Json → List Char
  | [] => newline level ++ [']']
  | item :: items =>
    ',' :: newline (level + 1) ++ printIndented (level + 1) item ++ printIndentedItems level items

/-- Further members on lines of their own, and the closing brace. -/
def printIndentedMembers (level : Nat) : List (String × Json) → List Char
  | [] => newline level ++ ['\x7d']
  | (name, value) :: members =>
    ',' :: newline (level + 1) ++ printString name ++ [':', ' '] ++
      printIndented (level + 1) value ++ printIndentedMembers level members

end

def compact (value : Json) : String := String.ofList (print value)

def pretty (value : Json) : String := String.ofList (printIndented 0 value)

end Gatehouse.Json
