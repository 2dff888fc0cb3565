/-!
# Punycode

Labels outside ASCII are written with ASCII letters and digits: the ASCII characters come first, then
for every other character, in increasing order, the distance from the one before it as a number of
variable length. The base is 36 and the thresholds follow a bias that adapts to the distances seen.
-/

namespace Gatehouse.Url.Punycode

/-- The digit for a value below 36. -/
def digit (d : Nat) : Char :=
  if d < 26 then Char.ofNat (0x61 + d) else Char.ofNat (0x30 + (d - 26))

def digitValue? (c : Char) : Option Nat :=
  if 'a' ≤ c ∧ c ≤ 'z' then some (c.toNat - 0x61)
  else if '0' ≤ c ∧ c ≤ '9' then some (c.toNat - 0x30 + 26)
  else none

/-- The threshold of the digit at position `k`, counted in steps of 36. -/
def threshold (k bias : Nat) : Nat := min 26 (max 1 (k - bias))

/-- Divide a distance down to the range of a single digit, counting the steps. -/
def settle : Nat → Nat → Nat → Nat × Nat
  | 0, delta, k => (delta, k)
  | fuel + 1, delta, k => if 455 < delta then settle fuel (delta / 35) (k + 36) else (delta, k)

/-- The bias after a distance, with `count` characters placed so far. -/
def adapt (delta count : Nat) (isFirst : Bool) : Nat :=
  let halved := if isFirst then delta / 700 else delta / 2
  let (delta, k) := settle 16 (halved + halved / count) 0
  k + 36 * delta / (delta + 38)

/-- A distance in digits, at most `fuel` of them. -/
def distanceDigits (bias : Nat) : Nat → Nat → Nat → List Char
  | 0, _, _ => []
  | fuel + 1, k, q =>
    let t := threshold k bias
    if q < t then [digit q]
    else digit (t + (q - t) % (36 - t)) :: distanceDigits bias fuel (k + 36) ((q - t) / (36 - t))

/-- Where the writing of a label stands. -/
structure Writer where
  out : List Char
  delta : Nat
  bias : Nat
  placed : Nat

/-- Pass over one character of the label while the characters equal to `point` are placed. -/
def Writer.pass (basic point : Nat) (w : Writer) (c : Char) : Writer :=
  if c.toNat < point then { w with delta := w.delta + 1 }
  else if c.toNat = point then
    { out := w.out ++ distanceDigits w.bias 16 36 w.delta
      delta := 0
      bias := adapt w.delta (w.placed + 1) (w.placed = basic)
      placed := w.placed + 1 }
  else w

/-- Place the characters of each of the increasing code points in turn, from `next` on. -/
def place (label : List Char) (basic : Nat) : List Nat → Nat → Writer → Writer
  | [], _, w => w
  | point :: points, next, w =>
    let w := { w with delta := w.delta + (point - next) * (w.placed + 1) }
    let w := label.foldl (Writer.pass basic point) w
    place label basic points (point + 1) { w with delta := w.delta + 1 }

/-- The written form of a label, without its mark `xn--`. -/
def encode (label : List Char) : List Char :=
  let basic := label.filter fun c => c.toNat < 0x80
  let others := (label.filter fun c => 0x80 ≤ c.toNat).map Char.toNat
  let points := (others.mergeSort (· ≤ ·)).eraseDups
  let w := place label basic.length points 0x80 ⟨[], 0, 72, basic.length⟩
  basic ++ (if basic = [] then [] else ['-']) ++ w.out

/-- Read one distance: the digits so far stand for `delta`, the next one has weight `w`. -/
def readDistance (bias : Nat) : Nat → Nat → Nat → List Char → Option (Nat × List Char)
  | _, _, _, [] => none
  | k, w, delta, c :: rest =>
    match digitValue? c with
    | none => none
    | some d =>
      let t := threshold k bias
      if UInt32.size ≤ delta + d * w then none
      else if d < t then some (delta + d * w, rest)
      else readDistance bias (k + 36) (w * (36 - t)) (delta + d * w) rest

/-- Place characters by their distances, at most `fuel` of them. The next character is at least `n`,
and its distance counts from position `i`. -/
def readPlaced (basic : Nat) :
    Nat → Nat → Nat → Nat → List Char → List Char → Option (List Char)
  | _, _, _, _, out, [] => some out
  | 0, _, _, _, _, _ => none
  | fuel + 1, n, i, bias, out, rest =>
    match readDistance bias 36 1 0 rest with
    | none => none
    | some (delta, rest) =>
      let count := out.length + 1
      let point := n + (i + delta) / count
      let position := (i + delta) % count
      if point < 0x110000 ∧ ¬(0xD800 ≤ point ∧ point < 0xE000) then
        readPlaced basic fuel point (position + 1) (adapt delta count (out.length = basic))
          (out.take position ++ Char.ofNat point :: out.drop position) rest
      else none

/-- The label that a written form, without its mark, stands for. -/
def decode? (cs : List Char) : Option (List Char) :=
  let tail := (cs.reverse.takeWhile (· ≠ '-')).reverse
  let basic := (cs.take (cs.length - tail.length)).dropLast
  if basic.all (·.toNat < 0x80) then readPlaced basic.length tail.length 0x80 0 72 basic tail
  else none

end Gatehouse.Url.Punycode
