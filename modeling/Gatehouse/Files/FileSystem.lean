import Gatehouse.Text.Utf8

/-!
# Reading files

The gateway only reads files. A file system is what reading each path gives, and a path exists unless
reading it says that nothing can be found there.
-/

namespace Gatehouse.Files

/-- Why a file cannot be read as a text. -/
inductive FileError where
  | notFound
  | isDirectory
  | notDirectory
  | notText
  /-- Any other reason, such as a permission that is missing, as the system tells it. `present` says
  whether something is at the path all the same. -/
  | other (present : Bool) (reason : String)
deriving DecidableEq, Repr

def FileError.message : FileError → String
  | .notFound => "No such file or directory (os error 2)"
  | .isDirectory => "Is a directory (os error 21)"
  | .notDirectory => "Not a directory (os error 20)"
  | .notText => "stream did not contain valid UTF-8"
  | .other _ reason => reason

/-- The bytes behind each path. -/
structure FileSystem where
  read : String → Except FileError Bytes

namespace FileSystem

def readText (files : FileSystem) (path : String) : Except FileError String :=
  match files.read path with
  | .error e => .error e
  | .ok bytes =>
    match Text.ofUtf8? bytes with
    | some text => .ok text
    | none => .error .notText

def exists? (files : FileSystem) (path : String) : Bool :=
  match files.read path with
  | .error .notFound => false
  | .error .notDirectory => false
  | .error (.other present _) => present
  | _ => true

/-- The file system that holds nothing but files that were read before. -/
def ofReads (reads : List (String × Except FileError Bytes)) : FileSystem where
  read path := (reads.lookup path).getD (.error .notFound)

end FileSystem

end Gatehouse.Files
