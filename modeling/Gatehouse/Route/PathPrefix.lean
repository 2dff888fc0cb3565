import Gatehouse.Text.Blank

/-!
# Path prefixes

A prefix matches a path by whole segments: the path is the prefix itself or goes on with a slash. The
prefix `/` matches every path. `strip?` gives what is left of a path behind the prefix and the slash.
-/

namespace Gatehouse.Route

def isSlash (c : Char) : Bool := c = '/'

/-- The normal form of a prefix: one leading slash at least and no final one, or a single slash. -/
def normalPrefix (s : String) : String :=
  let trimmed := Text.dropEndWhile isSlash s.toList
  String.ofList <|
    match trimmed with
    | [] => ['/']
    | '/' :: _ => trimmed
    | _ => '/' :: trimmed

def isNormal (cs : List Char) : Bool :=
  cs = ['/'] || (cs.head? = some '/' && cs.getLast? ≠ some '/')

theorem isNormal_normalPrefix (s : String) : isNormal (normalPrefix s).toList = true := by
  have hlast {c : Char} (h : (Text.dropEndWhile isSlash s.toList).getLast? = some c) : c ≠ '/' := by
    simpa [isSlash] using Text.getLast?_dropEndWhile h
  unfold normalPrefix
  rw [String.toList_ofList]
  cases htrimmed : Text.dropEndWhile isSlash s.toList with
  | nil => rfl
  | cons first rest =>
      have hkept : (first :: rest).getLast? ≠ some '/' := fun h => hlast (htrimmed ▸ h) rfl
      by_cases hslash : first = '/'
      · subst hslash
        simp [isNormal, hkept]
      · have hshown : (match first :: rest with
            | [] => ['/']
            | '/' :: _ => first :: rest
            | _ => '/' :: first :: rest) = '/' :: first :: rest := by
          split
          · next h => cases h
          · next h => exact absurd (List.cons.inj h).1 hslash
          · rfl
        rw [hshown]
        simpa [isNormal] using hkept

/-- A path prefix in normal form. -/
structure PathPrefix where
  text : String
  normal : isNormal text.toList = true
deriving DecidableEq, Repr

namespace PathPrefix

/-- The prefix that a text names. -/
def ofString (s : String) : PathPrefix := ⟨normalPrefix s, isNormal_normalPrefix s⟩

/-- The size of a prefix in bytes. -/
def size (p : PathPrefix) : Nat := p.text.utf8ByteSize

/-- Whether the prefix matches every path. -/
def isCatchAll (p : PathPrefix) : Bool := p.text = "/"

/-- What follows `start` in a text that begins with it. -/
def dropStart? : List Char → List Char → Option (List Char)
  | [], cs => some cs
  | _ :: _, [] => none
  | a :: start, c :: cs => if a = c then dropStart? start cs else none

/-- What is left of a path behind the prefix, without the slash between them; none when the prefix
does not match. -/
def strip? (p : PathPrefix) (path : String) : Option String :=
  if p.isCatchAll then
    match path.toList with
    | '/' :: rest => some (String.ofList rest)
    | _ => some path
  else
    match dropStart? p.text.toList path.toList with
    | none => none
    | some [] => some ""
    | some ('/' :: rest) => some (String.ofList rest)
    | some (_ :: _) => none

def accepts (p : PathPrefix) (path : String) : Bool := (p.strip? path).isSome

/-- Dropping what stands at the start leaves the rest. -/
theorem dropStart?_eq_some_iff {start cs rest : List Char} :
    dropStart? start cs = some rest ↔ cs = start ++ rest := by
  induction start generalizing cs with
  | nil => simp [dropStart?, eq_comm]
  | cons a start ih =>
    cases cs with
    | nil => simp [dropStart?]
    | cons c cs =>
      by_cases h : a = c
      · subst h; simp [dropStart?, ih]
      · simp [dropStart?, h, Ne.symm h]

end PathPrefix

end Gatehouse.Route
