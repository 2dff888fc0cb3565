import Gatehouse.Number.Decimal

/-!
# Floating-point numbers of 64 bits

A number is kept as its bit pattern. Quotients of whole numbers are rounded to the nearest number of
the format, ties to even; printing uses the fewest decimal digits that read back, and of those the
nearest.
-/

namespace Gatehouse.Number

/-- A floating-point number of 64 bits. -/
structure Binary64 where
  bits : UInt64
deriving DecidableEq, Repr

/-- A quotient rounded to the nearest whole number, a half to the even one. -/
def roundDiv (num den : Nat) : Nat :=
  let q := num / den
  let twice := 2 * (num % den)
  if twice < den then q else if den < twice then q + 1 else q + q % 2

namespace Binary64

def signWeight : Nat := 0x8000000000000000

/-- The weight of the lowest of the exponent bits, above the 52 fraction bits. -/
def exponentWeight : Nat := 0x10000000000000

def negative (x : Binary64) : Bool := signWeight ≤ x.bits.toNat

/-- The eleven exponent bits. -/
def exponentField (x : Binary64) : Nat := x.bits.toNat / exponentWeight % 2048

/-- The 52 fraction bits. -/
def fractionField (x : Binary64) : Nat := x.bits.toNat % exponentWeight

/-- Neither an infinity nor a NaN. -/
def isFinite (x : Binary64) : Bool := x.exponentField ≠ 2047

/-- The whole number `m` with `|x| = m * 2 ^ x.exponent`. -/
def significand (x : Binary64) : Nat :=
  if x.exponentField = 0 then x.fractionField else x.fractionField + exponentWeight

/-- The exponent `q` with `|x| = x.significand * 2 ^ q`. -/
def exponent (x : Binary64) : Int := (max x.exponentField 1 : Nat) - (1075 : Int)

/-- The number with the given sign whose remaining bits are `magnitude`, infinite when those are
out of range. -/
def ofMagnitude (isNegative : Bool) (magnitude : Nat) : Binary64 :=
  ⟨UInt64.ofNat ((if isNegative then signWeight else 0) + min magnitude (2047 * exponentWeight))⟩

def infinite (isNegative : Bool) : Binary64 := ofMagnitude isNegative (2047 * exponentWeight)

/-- The whole number `n * 10 ^ e * 2 ^ q`, where exponents below zero count as zero. -/
def scale (n : Nat) (e q : Int) : Nat := (n * Nat.pow 10 e.toNat) <<< q.toNat

/-- `num / den` rounded to the format. -/
def ofRatio (isNegative : Bool) (num den : Nat) : Binary64 :=
  if num = 0 then ofMagnitude isNegative 0
  else
    let scaled (q : Int) : Nat × Nat := (scale num 0 (-q), scale den 0 q)
    let low : Int := (num.log2 : Int) - den.log2 - 53
    let fits := (scaled low).1 / (scaled low).2 < 2 * exponentWeight
    let q := max (if fits then low else low + 1) (-1074)
    ofMagnitude isNegative ((q + 1074).toNat * exponentWeight + roundDiv (scaled q).1 (scaled q).2)

/-- `10 ^ k` rounded to the format. -/
def tenPower (k : Nat) : Binary64 := ofRatio false (scale 1 k 0) 1

/-- The numerator of `|x|` over a power of two. -/
def numerator (x : Binary64) : Nat := scale x.significand 0 x.exponent

/-- The power of two under `x.numerator`. -/
def denominator (x : Binary64) : Nat := scale 1 0 (-x.exponent)

/-- The product of the absolute values, rounded. -/
def mulAbs (x y : Binary64) : Binary64 :=
  ofRatio false (x.numerator * y.numerator) (x.denominator * y.denominator)

/-- The quotient of the absolute values, rounded. -/
def divAbs (x y : Binary64) : Binary64 :=
  ofRatio false (x.numerator * y.denominator) (x.denominator * y.numerator)

def withSign (isNegative : Bool) (x : Binary64) : Binary64 :=
  ofMagnitude isNegative (x.bits.toNat % signWeight)

/-- Whether `d * 10 ^ e` is at most `x * 2 ^ q`. -/
def decimalLe (d : Nat) (e : Int) (x : Nat) (q : Int) : Bool :=
  scale d e (-q) ≤ scale x (-e) q

/-- The least `p ≥ start` with `x * 2 ^ q < 10 ^ p`, looked for in at most `fuel` steps. -/
def decimalExponent (x : Nat) (q : Int) : Nat → Int → Int
  | 0, start => start
  | fuel + 1, start =>
    if decimalLe 1 start x q then decimalExponent x q fuel (start + 1) else start

/-- Drop final zeros from the digits `d` of `d * 10 ^ e`, at most `fuel` of them. -/
def dropZeros : Nat → Nat → Int → Nat × Int
  | 0, d, e => (d, e)
  | fuel + 1, d, e => if d % 10 = 0 ∧ d ≠ 0 then dropZeros fuel (d / 10) (e + 1) else (d, e)

/-- The point of the grid of multiples of `10 ^ e` that reads back as `x`, the nearer one if both
neighbours of `x` do, the even one if they are equally near. -/
def gridPoint? (x : Binary64) (e : Int) : Option Nat :=
  let m := x.significand
  let q := x.exponent - 2
  let low := if x.fractionField = 0 ∧ 1 < x.exponentField then 4 * m - 1 else 4 * m - 2
  let high := 4 * m + 2
  let num := scale (4 * m) (-e) q
  let den := scale 1 e (-q)
  let below := num / den
  let within (d : Nat) : Bool :=
    let above := !decimalLe d e low q ||
      (m % 2 = 0 && decimalLe d e low q && scale d e (-q) = scale low (-e) q)
    let under := decimalLe d e high q && (m % 2 = 0 || scale d e (-q) ≠ scale high (-e) q)
    above && under
  match within below && below ≠ 0, within (below + 1) with
  | true, true => some (roundDiv num den)
  | true, false => some below
  | false, true => some (below + 1)
  | false, false => none

/-- The shortest decimal `d * 10 ^ e` that reads back as the finite, nonzero `|x|`. -/
def shortest (x : Binary64) : Nat × Int :=
  let start := ((x.significand.log2 : Int) + x.exponent) * 30102 / 100000 - 1
  let p := decimalExponent x.significand x.exponent 4 start
  let found := (List.range 17).findSome? fun (n : Nat) =>
    let e := p - ((n : Int) + 1)
    (x.gridPoint? e).map fun d => (d, e)
  let (d, e) := found.getD (0, 0)
  dropZeros 20 d e

/-- A number in decimal: positional with a fraction while the point falls near the digits, with an
exponent otherwise. -/
def render (x : Binary64) : List Char :=
  let sign := if x.negative then ['-'] else []
  if x.significand = 0 then sign ++ ['0', '.', '0']
  else
    let (d, e) := x.shortest
    let ds := digits d
    let point : Int := ds.length + e
    let body :=
      if 0 ≤ e ∧ point ≤ 16 then ds ++ List.replicate e.toNat '0' ++ ['.', '0']
      else if 0 < point ∧ point ≤ 16 then ds.take point.toNat ++ '.' :: ds.drop point.toNat
      else if -5 < point ∧ point ≤ 0 then ['0', '.'] ++ List.replicate (-point).toNat '0' ++ ds
      else if ds.length = 1 then ds ++ 'e' :: signed (point - 1)
      else ds.take 1 ++ '.' :: ds.drop 1 ++ 'e' :: signed (point - 1)
    sign ++ body

end Binary64

end Gatehouse.Number
