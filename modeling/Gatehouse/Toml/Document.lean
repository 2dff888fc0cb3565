import Gatehouse.Toml.Scalar

/-!
# TOML documents

A document is read line by line into a tree that remembers how each table came to be: by its own
header, by a dotted key, or only because something below it was named. No key and no header may
define a table twice, and nothing can be added to a value. Arrays, tables in braces and dotted keys go
at most 79 levels deep.
-/

namespace Gatehouse.Toml

open Scalar

/-- The number of levels that is too deep. -/
def depthLimit : Nat := 80

/-- Something a key stands for while a document is being read. -/
inductive Item where
  | value (value : Toml)
  /-- A table; `implied` when only its name has been used so far, `dotted` when by a dotted key. -/
  | table (implied dotted : Bool) (entries : List (String × Item))
  /-- The tables of an array, last first. -/
  | tables (elements : List (List (String × Item)))
deriving Inhabited

/-- The entries of a table that is being read. -/
abbrev Entries := List (String × Item)

namespace Item

mutual

/-- The finished value. -/
def toToml : Item → Toml
  | .value v => v
  | .table _ _ entries => .table (entriesToToml entries)
  | .tables elements => .arr (elementsToToml elements [])

/-- The finished entries of a table. -/
def entriesToToml : List (String × Item) → List (String × Toml)
  | [] => []
  | (key, item) :: entries => (key, toToml item) :: entriesToToml entries

/-- The finished tables of an array, put before `later` in reverse. -/
def elementsToToml : List (List (String × Item)) → List Toml → List Toml
  | [], later => later
  | entries :: elements, later => elementsToToml elements (.table (entriesToToml entries) :: later)

end

end Item

/-- Change the table at a path below some entries. Tables on the way are made when they are missing;
`dotted` says that the path comes from a dotted key, which may not enter a table with a header of its
own. The change is told whether it works on a table made by a dotted key. -/
def changeAt (dotted : Bool) (change : Bool → Entries → Option Entries) :
    List String → Bool → Entries → Option Entries
  | [], isDotted, entries => change isDotted entries
  | key :: path, _, entries =>
    match entries.lookup key with
    | none =>
      (changeAt dotted change path dotted []).map fun inner =>
        entries ++ [(key, .table true dotted inner)]
    | some (.value _) => none
    | some (.tables []) => none
    | some (.tables (last :: earlier)) =>
      (changeAt dotted change path false last).map fun inner =>
        setEntry key (.tables (inner :: earlier)) entries
    | some (.table implied isDotted inner) =>
      if dotted ∧ ¬implied then none
      else
        (changeAt dotted change path isDotted inner).map fun inner =>
          setEntry key (.table implied isDotted inner) entries

/-- Add a key with a value to some entries; the key may be dotted. -/
def addPair (entries : Entries) (key : List String) (value : Toml) : Option Entries :=
  let path := key.dropLast
  match key.getLast? with
  | none => none
  | some name =>
    changeAt true
      (fun isDotted entries =>
        if isDotted = path.isEmpty ∨ (entries.lookup name).isSome then none
        else some (entries ++ [(name, .value value)]))
      path false entries

/-- The parts of a key, dots between them, at most `fuel` of them. -/
def keyParts : Nat → Reader (List String)
  | 0, _ => none
  | fuel + 1, cs =>
    match simpleKey (skipSpace cs) with
    | none => none
    | some (name, rest) =>
      match skipSpace rest with
      | '.' :: more => (keyParts fuel more).map fun (names, left) => (name :: names, left)
      | left => some ([name], left)

/-- A key of fewer than `depthLimit` parts, with the blanks around it. -/
def key : Reader (List String) := keyParts (depthLimit - 1)

/-- The text after blanks, line breaks and comments. -/
def skipFiller : Nat → List Char → List Char
  | 0, cs => cs
  | fuel + 1, cs =>
    let rest := skipComment (skipSpace cs)
    match newline? rest with
    | some more => skipFiller fuel more
    | none => rest

mutual

/-- A value at a depth, with at most `fuel` steps into the text. -/
def value (depth : Nat) : Nat → Reader Toml
  | 0, _ => none
  | fuel + 1, cs =>
    match cs with
    | '[' :: rest =>
      if depth + 1 < depthLimit then
        match skipFiller rest.length rest with
        | ']' :: left => some (.arr [], left)
        | _ => (arrayItems (depth + 1) fuel rest).map fun (items, left) => (.arr items, left)
      else none
    | '\x7b' :: rest =>
      if depth + 1 < depthLimit then
        match skipSpace rest with
        | '\x7d' :: left => some (.table [], left)
        | _ =>
          (inlinePairs (depth + 1) fuel [] rest).map fun (entries, left) =>
            (.table (Item.entriesToToml entries), left)
      else none
    | _ => scalar cs

/-- The items of an array up to its bracket, at least one. A comma may stand after the last. -/
def arrayItems (depth : Nat) : Nat → Reader (List Toml)
  | 0, _ => none
  | fuel + 1, cs =>
    match value depth fuel (skipFiller cs.length cs) with
    | none => none
    | some (item, rest) =>
      match skipFiller rest.length rest with
      | ']' :: left => some ([item], left)
      | ',' :: more =>
        match skipFiller more.length more with
        | ']' :: left => some ([item], left)
        | _ => (arrayItems depth fuel more).map fun (items, left) => (item :: items, left)
      | _ => none

/-- The pairs of a table in braces up to its brace, at least one, added to `entries`. -/
def inlinePairs (depth : Nat) : Nat → Entries → Reader Entries
  | 0, _, _ => none
  | fuel + 1, entries, cs =>
    match key cs with
    | some (names, '=' :: rest) =>
      match value depth fuel (skipSpace rest) with
      | none => none
      | some (v, rest) =>
        match addPair entries names v with
        | none => none
        | some entries =>
          match skipSpace rest with
          | '\x7d' :: left => some (entries, left)
          | ',' :: more => inlinePairs depth fuel entries more
          | _ => none
    | _ => none

end

/-- A document while it is read: the finished part, and the table that the last header opened. -/
structure Draft where
  root : Entries
  path : List String
  isElement : Bool
  current : Entries

namespace Draft

/-- Nothing read so far. -/
def empty : Draft := ⟨[], [], false, []⟩

/-- Put the open table into the finished part. -/
def close (draft : Draft) : Option Entries :=
  match draft.path.getLast? with
  | none => some draft.current
  | some name =>
    changeAt false
      (fun _ entries =>
        match entries.lookup name with
        | some (.tables elements) =>
          if draft.isElement then some (setEntry name (.tables (draft.current :: elements)) entries)
          else none
        | some (.table true _ _) =>
          if draft.isElement then none
          else some (setEntry name (.table false false draft.current) entries)
        | some _ => none
        | none =>
          if draft.isElement then some (entries ++ [(name, .tables [draft.current])])
          else some (entries ++ [(name, .table false false draft.current)]))
      draft.path.dropLast false draft.root

/-- What a header finds under its last name: entries already implied, or none. -/
def implied? (name : String) (entries : Entries) : Option Entries :=
  match entries.lookup name with
  | none => some []
  | some (.table true false inner) => some inner
  | some _ => none

/-- Open a table by its header. What its name implied so far moves into it. -/
def openTable (draft : Draft) (path : List String) : Option Draft := do
  let root ← draft.close
  let name ← path.getLast?
  let root ← changeAt false (fun _ entries => some entries) path.dropLast false root
  let found ← lookupAt path.dropLast root
  let current ← implied? name found
  let root ← changeAt false
    (fun _ entries => some (entries.filter fun entry => entry.1 ≠ name)) path.dropLast false root
  pure ⟨root, path, false, current⟩
where
  /-- The entries at a path that exists. -/
  lookupAt : List String → Entries → Option Entries
    | [], entries => some entries
    | key :: path, entries =>
      match entries.lookup key with
      | some (.table _ _ inner) => lookupAt path inner
      | some (.tables (last :: _)) => lookupAt path last
      | _ => none

/-- Open the next table of an array by its header. -/
def openElement (draft : Draft) (path : List String) : Option Draft := do
  let root ← draft.close
  let name ← path.getLast?
  let root ← changeAt false
    (fun _ entries =>
      match entries.lookup name with
      | none => some (entries ++ [(name, .tables [])])
      | some (.tables _) => some entries
      | some _ => none)
    path.dropLast false root
  pure ⟨root, path, true, []⟩

end Draft

/-- The text after the end of a line: blanks, a comment, and a line break or the end of the text. -/
def lineEnd? (cs : List Char) : Option (List Char) :=
  let rest := skipComment (skipSpace cs)
  if rest = [] then some [] else newline? rest

/-- One line of a document: a header, a pair, or nothing. -/
def line (draft : Draft) (cs : List Char) : Option (Draft × List Char) :=
  match cs with
  | '[' :: '[' :: rest =>
    match key rest with
    | some (path, ']' :: ']' :: left) => do
      let draft ← draft.openElement path
      let left ← lineEnd? left
      pure (draft, left)
    | _ => none
  | '[' :: rest =>
    match key rest with
    | some (path, ']' :: left) => do
      let draft ← draft.openTable path
      let left ← lineEnd? left
      pure (draft, left)
    | _ => none
  | _ =>
    match lineEnd? cs with
    | some left => some (draft, left)
    | none =>
      match key cs with
      | some (names, '=' :: rest) => do
        let (v, left) ← value 0 (rest.length + 1) (skipSpace rest)
        let current ← addPair draft.current names v
        let left ← lineEnd? left
        pure ({ draft with current }, left)
      | _ => none

/-- The lines of a document, at most `fuel` of them. -/
def lines : Nat → Draft → List Char → Option Draft
  | 0, _, _ => none
  | fuel + 1, draft, cs =>
    match skipSpace cs with
    | [] => some draft
    | rest =>
      match line draft rest with
      | none => none
      | some (draft, left) => lines fuel draft left

/-- Read a document. A byte order mark may stand at its start. -/
def parse? (text : String) : Option Toml :=
  let cs := match text.toList with
    | '\uFEFF' :: rest => rest
    | cs => cs
  match lines (cs.length + 1) .empty cs with
  | none => none
  | some draft => draft.close.map fun entries => .table (Item.entriesToToml entries)

end Gatehouse.Toml
