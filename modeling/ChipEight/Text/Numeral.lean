import ChipEight.Text.Characters
import ChipEight.Text.Display

/-!
# Numerals

Integers as they are typed: blanks around, one sign, a radix prefix where the radix is open, and
digits of any script with single underscores between them. `parse` reads one or says why not.
-/

namespace ChipEight.Text.Numeral

inductive Radix where
  /-- By the prefix `0x`, `0o` or `0b`, and ten without one. -/
  | byPrefix
  | ten
  /-- Sixteen, with or without `0x`. -/
  | sixteen
  deriving DecidableEq, Repr

/-- The number that a message gives for the radix; an open radix is zero. -/
def Radix.number : Radix → Nat
  | .byPrefix => 0
  | .ten => 10
  | .sixteen => 16

inductive Error where
  | malformed (radix : Radix) (text : List Char)
  | tooLong (digits : Nat)
  deriving DecidableEq, Repr

def digitLimit : Nat := 4300

/-- The most characters of a quoted text that a message shows. -/
def shownLimit : Nat := 200

def Error.message : Error → String
  | .malformed radix text =>
    s!"invalid literal for int() with base {radix.number}: " ++
      String.ofList ((quoted text).take shownLimit)
  | .tooLong digits =>
    s!"Exceeds the limit ({digitLimit} digits) for integer string conversion: value has {digits} " ++
      "digits; use sys.set_int_max_str_digits() to increase the limit"

/-- The value of an ASCII digit or letter as a digit, in any radix up to thirty-six. -/
def digitValue? (c : Char) : Option Nat :=
  if '0' ≤ c && c ≤ '9' then some (c.toNat - 48)
  else if 'a' ≤ c && c ≤ 'z' then some (c.toNat - 87)
  else if 'A' ≤ c && c ≤ 'Z' then some (c.toNat - 55)
  else none

def isDigit (base : Nat) (c : Char) : Bool := (digitValue? c).any (· < base)

/-- The ASCII character that a numeral reads for `c`: the digit of the same value, a space for a
blank beyond ASCII, and a character of no meaning for all other characters beyond ASCII. -/
def asciiForm (c : Char) : Char :=
  if c.toNat < 127 then c
  else if isBlank c then ' '
  else match decimalDigit? c with
    | some d => Nat.digitChar d
    | none => '?'

/-- The blanks that may surround a numeral. -/
def isSpace (c : Char) : Bool := c = ' ' || (9 ≤ c.toNat && c.toNat ≤ 13)

/-- The sign of a numeral, true for a minus, and what follows it. -/
def splitSign : List Char → Bool × List Char
  | '-' :: cs => (true, cs)
  | '+' :: cs => (false, cs)
  | cs => (false, cs)

/-- The base that a prefix letter after a zero stands for. -/
def prefixBase? (c : Char) : Option Nat :=
  if c = 'x' || c = 'X' then some 16
  else if c = 'o' || c = 'O' then some 8
  else if c = 'b' || c = 'B' then some 2
  else none

/-- What a numeral says between its sign and its digits. -/
structure Head where
  base : Nat
  /-- A leading zero without a prefix letter allows no value but zero. -/
  zeroOnly : Bool
  rest : List Char

/-- One underscore may stand between a prefix and the digits. -/
def dropUnderscore : List Char → List Char
  | '_' :: cs => cs
  | cs => cs

def splitPrefix (radix : Radix) (cs : List Char) : Head :=
  match radix, cs with
  | .ten, cs => ⟨10, false, cs⟩
  | .sixteen, '0' :: c :: rest =>
    if prefixBase? c = some 16 then ⟨16, false, dropUnderscore rest⟩ else ⟨16, false, cs⟩
  | .sixteen, cs => ⟨16, false, cs⟩
  | .byPrefix, '0' :: c :: rest =>
    match prefixBase? c with
    | some base => ⟨base, false, dropUnderscore rest⟩
    | none => ⟨10, true, cs⟩
  | .byPrefix, '0' :: [] => ⟨10, true, cs⟩
  | .byPrefix, cs => ⟨10, false, cs⟩

/-- Whether every underscore stands between two digits, given that the text before ended in a digit
iff `afterDigit`. -/
def underscoresSeparate (afterDigit : Bool) : List Char → Bool
  | [] => true
  | ['_'] => false
  | '_' :: cs => afterDigit && underscoresSeparate false cs
  | _ :: cs => underscoresSeparate true cs

def value (base : Nat) (digits : List Char) : Nat :=
  digits.foldl (fun n c => n * base + (digitValue? c).getD 0) 0

/-- Reads the digits after a head and requires that only blanks follow them. -/
def parseDigits (malformed : Error) (head : Head) : Except Error Nat :=
  let isPart (c : Char) := isDigit head.base c || c = '_'
  let scanned := head.rest.takeWhile isPart
  let digits := scanned.filter (· ≠ '_')
  if !underscoresSeparate false scanned then .error malformed
  else if head.base = 10 && digitLimit < digits.length then .error (.tooLong digits.length)
  else if digits.isEmpty then .error malformed
  else if head.zeroOnly && value head.base digits ≠ 0 then .error malformed
  else if (head.rest.dropWhile isPart).all isSpace then .ok (value head.base digits)
  else .error malformed

def parse (radix : Radix) (text : List Char) : Except Error Int :=
  let (negative, cs) := splitSign ((text.map asciiForm).dropWhile isSpace)
  (parseDigits (.malformed radix text) (splitPrefix radix cs)).map fun (n : Nat) =>
    if negative then -(n : Int) else n

end ChipEight.Text.Numeral
