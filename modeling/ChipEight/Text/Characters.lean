/-!
# Characters and words

Classes of characters, and the ways in which source text and typed commands are cut: at blanks, at
commas into trimmed, non-empty fields, and into lines.
-/

namespace ChipEight.Text

/-! ### Sets of code points -/

/-- The code points at which membership changes, in ascending order. -/
structure CodePoints where
  boundaries : List Nat

/-- A character is in the set if an odd number of boundaries lie at or below it. -/
def CodePoints.contains (s : CodePoints) (c : Char) : Bool :=
  (s.boundaries.takeWhile (· ≤ c.toNat)).length % 2 == 1

/-! ### Decimal digits -/

/-- The zeros of all scripts, the ASCII one first. -/
def zeroDigits : List Nat := List.flatten [
  [0x30, 0x660, 0x6f0, 0x7c0, 0x966, 0x9e6, 0xa66, 0xae6, 0xb66, 0xbe6, 0xc66, 0xce6],
  [0xd66, 0xde6, 0xe50, 0xed0, 0xf20, 0x1040, 0x1090, 0x17e0, 0x1810, 0x1946, 0x19d0, 0x1a80],
  [0x1a90, 0x1b50, 0x1bb0, 0x1c40, 0x1c50, 0xa620, 0xa8d0, 0xa900, 0xa9d0, 0xa9f0, 0xaa50, 0xabf0],
  [0xff10, 0x104a0, 0x10d30, 0x11066, 0x110f0, 0x11136, 0x111d0, 0x112f0, 0x11450, 0x114d0,
    0x11650, 0x116c0],
  [0x11730, 0x118e0, 0x11950, 0x11c50, 0x11d50, 0x11da0, 0x16a60, 0x16ac0, 0x16b50,
    0x1d7ce, 0x1d7d8, 0x1d7e2],
  [0x1d7ec, 0x1d7f6, 0x1e140, 0x1e2f0, 0x1e950, 0x1fbf0]]

def decimalDigit? (c : Char) : Option Nat :=
  (zeroDigits.find? fun z => z ≤ c.toNat && c.toNat < z + 10).map (c.toNat - ·)

/-! ### Blanks -/

/-- The characters that separate words: the ASCII and Unicode spaces, the line and paragraph
separators, and the four information separators. -/
def isBlank (c : Char) : Bool :=
  let n := c.toNat
  (9 ≤ n && n ≤ 13) || (0x1c ≤ n && n ≤ 0x20) || n == 0x85 || n == 0xa0 || n == 0x1680 ||
    (0x2000 ≤ n && n ≤ 0x200a) || n == 0x2028 || n == 0x2029 || n == 0x202f || n == 0x205f ||
    n == 0x3000

def dropEnd (p : Char → Bool) (cs : List Char) : List Char := (cs.reverse.dropWhile p).reverse

def trim (cs : List Char) : List Char := dropEnd isBlank (cs.dropWhile isBlank)

/-- The first word of a text without leading blanks, and what follows the blanks after it. -/
def splitWord (cs : List Char) : List Char × List Char :=
  (cs.takeWhile fun c => !isBlank c, (cs.dropWhile fun c => !isBlank c).dropWhile isBlank)

def commaFields (cs : List Char) : List (List Char) :=
  ((cs.splitOn ',').map trim).filter fun f => !f.isEmpty

/-! ### Letters and line feeds -/

def lowerAscii (cs : List Char) : List Char := cs.map Char.toLower

def upperAscii (cs : List Char) : List Char := cs.map Char.toUpper

/-- The carriage returns of `cs` as line feeds, a pair of both as one. -/
def normalizeNewlines : List Char → List Char
  | [] => []
  | '\r' :: '\n' :: cs => '\n' :: normalizeNewlines cs
  | '\r' :: cs => '\n' :: normalizeNewlines cs
  | c :: cs => c :: normalizeNewlines cs

end ChipEight.Text
