/-!
# Blank characters

The characters with the Unicode property `White_Space`, and trimming them off a text.
A text is blank when nothing is left of it.
-/

namespace Gatehouse.Text

/-- The 25 characters with the property `White_Space`. -/
def isBlank (c : Char) : Bool :=
  let n := c.toNat
  (9 ≤ n && n ≤ 13) || n == 0x20 || n == 0x85 || n == 0xA0 || n == 0x1680 ||
    (0x2000 ≤ n && n ≤ 0x200A) || n == 0x2028 || n == 0x2029 || n == 0x202F || n == 0x205F ||
    n == 0x3000

/-- Drop the longest final run of characters satisfying `p`. -/
def dropEndWhile (p : Char → Bool) (cs : List Char) : List Char :=
  (cs.reverse.dropWhile p).reverse

/-- Nothing is dropped but a run of characters satisfying `p`. -/
theorem exists_run_dropEndWhile (p : Char → Bool) (cs : List Char) :
    ∃ run, cs = dropEndWhile p cs ++ run ∧ run.all p = true := by
  refine ⟨(cs.reverse.takeWhile p).reverse, ?_, ?_⟩
  · have hsplit := congrArg List.reverse (List.takeWhile_append_dropWhile (p := p) (l := cs.reverse))
    rw [List.reverse_append, List.reverse_reverse] at hsplit
    exact hsplit.symm
  · rw [List.all_reverse]
    exact List.all_takeWhile

/-- The last character that is left does not satisfy `p`. -/
theorem getLast?_dropEndWhile {p : Char → Bool} {cs : List Char} {c : Char}
    (hlast : (dropEndWhile p cs).getLast? = some c) : p c = false := by
  rw [dropEndWhile, List.getLast?_reverse] at hlast
  have hhead := List.head?_dropWhile_not p cs.reverse
  rw [hlast] at hhead
  simpa using hhead

/-- Drop the characters satisfying `p` from both ends. -/
def stripWhile (p : Char → Bool) (cs : List Char) : List Char :=
  dropEndWhile p (cs.dropWhile p)

def trim (s : String) : String :=
  String.ofList (stripWhile isBlank s.toList)

/-- Whether a text holds blanks only. -/
def blank (s : String) : Bool :=
  s.toList.all isBlank

def lowerAscii (s : String) : String :=
  String.ofList (s.toList.map Char.toLower)

def upperAscii (s : String) : String :=
  String.ofList (s.toList.map Char.toUpper)

end Gatehouse.Text
