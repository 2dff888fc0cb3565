import Gatehouse.Unicode.Marks

/-!
# Directions

Most scripts are written from left to right, some from right to left, and numbers and signs go along with
what is around them. Where labels of both directions meet, each has to keep to one direction and to show it
at both ends, so that it is not displayed in pieces. The table is that of Unicode 17.
-/

namespace Gatehouse.Unicode

/-- How a character behaves in a text of mixed directions. -/
inductive Direction where
  | leftToRight
  | rightToLeft
  | arabicLetter
  | europeanNumber
  | europeanSeparator
  | europeanTerminator
  | arabicNumber
  | commonSeparator
  | nonspacing
  | boundary
  | neutral
deriving DecidableEq, Repr

/-- The directions of ranges of code points. What is missing is a mark that takes up no room or runs from
left to right. -/
def directionRanges : List (Nat × Nat × Direction) := [
  (0x21, 0x22, .neutral), (0x23, 0x25, .europeanTerminator), (0x26, 0x2a, .neutral),
  (0x2b, 0x2b, .europeanSeparator), (0x2c, 0x2c, .commonSeparator),
  (0x2d, 0x2d, .europeanSeparator), (0x2e, 0x2f, .commonSeparator), (0x30, 0x39, .europeanNumber),
  (0x3a, 0x3a, .commonSeparator), (0x3b, 0x40, .neutral), (0x5b, 0x60, .neutral),
  (0x7b, 0xa1, .neutral), (0xa2, 0xa5, .europeanTerminator), (0xa6, 0xae, .neutral),
  (0xb0, 0xb1, .europeanTerminator), (0xb6, 0xd7, .neutral), (0xf7, 0xf7, .neutral),
  (0x2b9, 0x2ba, .neutral), (0x2c2, 0x2cf, .neutral), (0x2d2, 0x2ed, .neutral),
  (0x2ef, 0x2ff, .neutral), (0x375, 0x375, .neutral), (0x3f6, 0x3f6, .neutral),
  (0x58a, 0x58e, .neutral), (0x58f, 0x58f, .europeanTerminator), (0x5be, 0x5be, .rightToLeft),
  (0x5c0, 0x5c0, .rightToLeft), (0x5c3, 0x5c3, .rightToLeft), (0x5c6, 0x5c6, .rightToLeft),
  (0x5d0, 0x5f4, .rightToLeft), (0x606, 0x607, .neutral), (0x608, 0x608, .arabicLetter),
  (0x609, 0x60a, .europeanTerminator), (0x60b, 0x60b, .arabicLetter),
  (0x60c, 0x60c, .commonSeparator), (0x60d, 0x60d, .arabicLetter), (0x60e, 0x60f, .neutral),
  (0x61b, 0x64a, .arabicLetter), (0x660, 0x669, .arabicNumber), (0x66a, 0x66a, .europeanTerminator),
  (0x66b, 0x66c, .arabicNumber), (0x66d, 0x66f, .arabicLetter), (0x671, 0x6d5, .arabicLetter),
  (0x6de, 0x6de, .neutral), (0x6e5, 0x6e6, .arabicLetter), (0x6e9, 0x6e9, .neutral),
  (0x6ee, 0x6ef, .arabicLetter), (0x6f0, 0x6f9, .europeanNumber), (0x6fa, 0x710, .arabicLetter),
  (0x712, 0x72f, .arabicLetter), (0x74d, 0x7a5, .arabicLetter), (0x7b1, 0x7b1, .arabicLetter),
  (0x7c0, 0x7ea, .rightToLeft), (0x7f4, 0x7f5, .rightToLeft), (0x7f6, 0x7f9, .neutral),
  (0x7fa, 0x7fa, .rightToLeft), (0x7fe, 0x815, .rightToLeft), (0x81a, 0x81a, .rightToLeft),
  (0x824, 0x824, .rightToLeft), (0x828, 0x828, .rightToLeft), (0x830, 0x858, .rightToLeft),
  (0x85e, 0x85e, .rightToLeft), (0x860, 0x88f, .arabicLetter), (0x8a0, 0x8c9, .arabicLetter),
  (0x9f2, 0x9f3, .europeanTerminator), (0x9fb, 0x9fb, .europeanTerminator),
  (0xaf1, 0xaf1, .europeanTerminator), (0xbf3, 0xbf8, .neutral),
  (0xbf9, 0xbf9, .europeanTerminator), (0xbfa, 0xbfa, .neutral), (0xc78, 0xc7e, .neutral),
  (0xcbf, 0xcbf, .leftToRight), (0xcc6, 0xcc6, .leftToRight), (0xe3f, 0xe3f, .europeanTerminator),
  (0xf3a, 0xf3d, .neutral), (0x1390, 0x1399, .neutral), (0x1400, 0x1400, .neutral),
  (0x169b, 0x169c, .neutral), (0x17db, 0x17db, .europeanTerminator), (0x17f0, 0x180a, .neutral),
  (0x1940, 0x1945, .neutral), (0x19de, 0x19ff, .neutral), (0x200c, 0x200d, .boundary),
  (0x2010, 0x2027, .neutral), (0x2030, 0x2032, .europeanTerminator), (0x2035, 0x2043, .neutral),
  (0x2044, 0x2044, .commonSeparator), (0x2045, 0x205e, .neutral),
  (0x20a0, 0x20c1, .europeanTerminator), (0x2104, 0x2129, .neutral),
  (0x212e, 0x212e, .europeanTerminator), (0x213a, 0x214d, .neutral), (0x218a, 0x2211, .neutral),
  (0x2212, 0x2212, .europeanSeparator), (0x2213, 0x2213, .europeanTerminator),
  (0x2214, 0x2335, .neutral), (0x237b, 0x2394, .neutral), (0x2396, 0x26ab, .neutral),
  (0x26ad, 0x27ff, .neutral), (0x2900, 0x2bff, .neutral), (0x2ce5, 0x2cea, .neutral),
  (0x2cf9, 0x2cff, .neutral), (0x2e00, 0x3004, .neutral), (0x3008, 0x3020, .neutral),
  (0x3030, 0x3030, .neutral), (0x3037, 0x3037, .neutral), (0x303d, 0x303f, .neutral),
  (0x30a0, 0x30a0, .neutral), (0x30fb, 0x30fb, .neutral), (0x31c0, 0x31e5, .neutral),
  (0x4dc0, 0x4dff, .neutral), (0xa490, 0xa4c6, .neutral), (0xa60d, 0xa60f, .neutral),
  (0xa673, 0xa673, .neutral), (0xa67e, 0xa67f, .neutral), (0xa700, 0xa721, .neutral),
  (0xa788, 0xa788, .neutral), (0xa828, 0xa82b, .neutral), (0xa838, 0xa839, .europeanTerminator),
  (0xa874, 0xa877, .neutral), (0xab6a, 0xab6b, .neutral), (0xfbb2, 0xfbc2, .arabicLetter),
  (0xfbc3, 0xfdff, .neutral), (0xfe45, 0xfe46, .neutral), (0xfe73, 0xfe73, .arabicLetter),
  (0x10101, 0x10101, .neutral), (0x10140, 0x1018c, .neutral), (0x10190, 0x101a0, .neutral),
  (0x102e1, 0x102fb, .europeanNumber), (0x10800, 0x1091b, .rightToLeft),
  (0x1091f, 0x1091f, .neutral), (0x10920, 0x10a00, .rightToLeft), (0x10a10, 0x10a35, .rightToLeft),
  (0x10a40, 0x10ae4, .rightToLeft), (0x10aeb, 0x10b35, .rightToLeft), (0x10b39, 0x10b3f, .neutral),
  (0x10b40, 0x10cff, .rightToLeft), (0x10d00, 0x10d23, .arabicLetter),
  (0x10d30, 0x10d39, .arabicNumber), (0x10d40, 0x10d4f, .rightToLeft), (0x10d6e, 0x10d6e, .neutral),
  (0x10d6f, 0x10d8f, .rightToLeft), (0x10e60, 0x10e7e, .arabicNumber),
  (0x10e80, 0x10ea9, .rightToLeft), (0x10ead, 0x10eb1, .rightToLeft),
  (0x10ec2, 0x10ec7, .arabicLetter), (0x10ed0, 0x10ed8, .neutral), (0x10f00, 0x10f27, .rightToLeft),
  (0x10f30, 0x10f45, .arabicLetter), (0x10f51, 0x10f59, .arabicLetter),
  (0x10f70, 0x10f81, .rightToLeft), (0x10f86, 0x10ff6, .rightToLeft), (0x11052, 0x11065, .neutral),
  (0x11660, 0x1166c, .neutral), (0x1171e, 0x1171e, .nonspacing), (0x11a07, 0x11a08, .leftToRight),
  (0x11c3f, 0x11c3f, .leftToRight), (0x11fd5, 0x11fdc, .neutral),
  (0x11fdd, 0x11fe0, .europeanTerminator), (0x11fe1, 0x11ff1, .neutral),
  (0x16fe2, 0x16fe2, .neutral), (0x1cc00, 0x1cef0, .neutral), (0x1d1e9, 0x1d241, .neutral),
  (0x1d245, 0x1d245, .neutral), (0x1d300, 0x1d356, .neutral),
  (0x1e2ff, 0x1e2ff, .europeanTerminator), (0x1e800, 0x1e8cf, .rightToLeft),
  (0x1e922, 0x1e943, .rightToLeft), (0x1e94b, 0x1e95f, .rightToLeft),
  (0x1ec71, 0x1ed3d, .arabicLetter), (0x1eef0, 0x1f12f, .neutral), (0x1f16d, 0x1f16f, .neutral),
  (0x1f1ad, 0x1f1ad, .neutral), (0x1f260, 0x1fbfa, .neutral)]

def direction (c : Char) : Direction :=
  let n := c.toNat
  match directionRanges.find? fun (first, last, _) => first ≤ n && n ≤ last with
  | some (_, _, d) => d
  | none => if isNonspacing n then .nonspacing else .leftToRight

/-- Whether a direction is that of a text from right to left. -/
def Direction.isReversed : Direction → Bool
  | .rightToLeft | .arabicLetter | .arabicNumber => true
  | _ => false

/-- Whether a direction goes along with any other. -/
def Direction.isWeak : Direction → Bool
  | .europeanNumber | .europeanSeparator | .europeanTerminator | .commonSeparator | .nonspacing
  | .boundary | .neutral => true
  | _ => false

/-- Whether a label can be displayed among labels of both directions. -/
def keepsDirection (label : List Char) : Bool :=
  let directions := label.map direction
  let last? := (directions.reverse.dropWhile (· = .nonspacing)).head?
  match directions.head? with
  | none => true
  | some .leftToRight =>
    directions.all (fun d => d = .leftToRight || d.isWeak) &&
      (last? = some .leftToRight || last? = some .europeanNumber)
  | some .rightToLeft | some .arabicLetter =>
    directions.all (fun d => d.isReversed || d.isWeak) &&
      (last?.map fun d => d.isReversed || d = .europeanNumber).getD false &&
      !(directions.contains .europeanNumber && directions.contains .arabicNumber)
  | some _ => false

/-- Whether the labels of a domain can be displayed together: none runs from right to left, or every one
keeps its direction. -/
def keepDirections (labels : List (List Char)) : Bool :=
  !labels.any (fun label => label.any fun c => (direction c).isReversed) || labels.all keepsDirection

end Gatehouse.Unicode
