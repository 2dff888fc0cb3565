import Gatehouse.Files.FileSystem
import Gatehouse.Url.Address

/-!
# Directory trees

A directory with everything below it as one value. A path is followed part by part: every part but
the last must be a directory, and two dots lead back to the directory above.
-/

namespace Gatehouse.Files

/-- A file or a directory. -/
inductive Tree where
  | file (bytes : Bytes)
  | directory (entries : List (String × Tree))
deriving Inhabited

namespace Tree

/-- Put a file or directory at a path of names, making the directories on the way. -/
def insert (leaf : Tree) : List String → List (String × Tree) → List (String × Tree)
  | [], entries => entries
  | [name], entries => (entries.filter fun entry => entry.1 ≠ name) ++ [(name, leaf)]
  | name :: path, entries =>
    let inside := match entries.lookup name with
      | some (.directory inner) => inner
      | _ => []
    (entries.filter fun entry => entry.1 ≠ name) ++ [(name, .directory (insert leaf path inside))]

/-- The names of a path, empty ones left out. -/
def pathNames (path : String) : List String :=
  ((Url.splitAt '/' path.toList).filter (· ≠ [])).map String.ofList

/-- Follow names from a tree; `above` are the trees passed on the way, nearest first. -/
def follow (above : List Tree) : Tree → List String → Except FileError Tree
  | here, [] => .ok here
  | .file _, _ :: _ => .error .notDirectory
  | .directory entries, name :: names =>
    if name = "." then follow above (.directory entries) names
    else if name = ".." then
      match above with
      | [] => follow [] (.directory entries) names
      | parent :: others => follow others parent names
    else
      match entries.lookup name with
      | none => .error .notFound
      | some next => follow (.directory entries :: above) next names

/-- What reading a path below a directory gives. -/
def read (entries : List (String × Tree)) (path : String) : Except FileError Bytes :=
  if path = "" then .error .notFound
  else
    match follow [] (.directory entries) (pathNames path) with
    | .error e => .error e
    | .ok (.directory _) => .error .isDirectory
    | .ok (.file bytes) =>
      if path.toList.getLast? = some '/' then .error .notDirectory else .ok bytes

def fileSystem (entries : List (String × Tree)) : FileSystem := ⟨read entries⟩

end Tree

end Gatehouse.Files
