import Gatehouse.Unicode.Composition
import Gatehouse.Unicode.Direction
import Gatehouse.Unicode.Joining
import Gatehouse.Unicode.Mapping
import Gatehouse.Url.Address
import Gatehouse.Url.Punycode

/-!
# Domains in ASCII

A domain is prepared label by label: characters are mapped to those that they stand for and composed, and a
label that is not ASCII then is written in Punycode behind the mark `xn--`. A label that already carries
the mark must be the written form of a prepared label. Joiners must have a reason to be there, and labels
from right to left must keep their direction.
-/

namespace Gatehouse.Url

/-- The characters that no domain may hold. -/
def isForbidden (c : Char) : Bool :=
  c.toNat ≤ 0x20 || c.toNat = 0x7F || c = '#' || c = '%' || c = '/' || c = ':' || c = '<' ||
    c = '>' || c = '?' || c = '@' || c = '[' || c = '\\' || c = ']' || c = '^' || c = '|'

/-- Characters mapped to those that they stand for, and composed. -/
def prepare (cs : List Char) : List Char := Unicode.normalize (cs.flatMap Unicode.mapChar)

/-- Whether a prepared label is in order: every character may be there, none at its start is a mark, and
joiners stand where they may. -/
def labelInOrder (label : List Char) : Bool :=
  label.all (fun c => !isForbidden c && Unicode.isAllowed c) &&
    !(label.head?.map fun c => Unicode.isMark c.toNat).getD false && Unicode.joinersStand [] label

/-- A label of a domain: what it says and how it is written in ASCII. -/
structure Label where
  text : List Char
  written : List Char

/-- The most characters of a label that are written in Punycode. -/
def maxLabelLength : Nat := 1000

/-- The most characters of Punycode that are read. -/
def maxPunycodeLength : Nat := 2000

/-- Read a prepared label, with or without the mark of Punycode. -/
def Label.ofPrepared? (label : List Char) : Option Label :=
  match label with
  | 'x' :: 'n' :: '-' :: '-' :: written =>
    if maxPunycodeLength < written.length then none
    else
      match Punycode.decode? written with
      | none => none
      | some decoded =>
        if decoded.any (fun c => 0x80 ≤ c.toNat) ∧ labelInOrder decoded ∧ prepare decoded = decoded ∧
            Punycode.encode decoded = written then
          some ⟨decoded, label⟩
        else none
  | _ =>
    if labelInOrder label then
      if label.all (fun c => c.toNat < 0x80) then some ⟨label, label⟩
      else if maxLabelLength < label.length then none
      else some ⟨label, ['x', 'n', '-', '-'] ++ Punycode.encode label⟩
    else none

/-- The text of a domain in ASCII, none when it is no domain. -/
def domainToAscii? (domain : List Char) : Option (List Char) := do
  let labels ← (splitAt '.' (prepare domain)).mapM Label.ofPrepared?
  if Unicode.keepDirections (labels.map Label.text) then
    pure (['.'].intercalate (labels.map Label.written))
  else none

end Gatehouse.Url
