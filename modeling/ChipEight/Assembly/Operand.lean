import ChipEight.Assembly.Error
import ChipEight.Instruction.Basic

/-!
# Operands

Registers by name, and numbers by numeral or by label. A number is checked against the width of the
field that it goes into.
-/

namespace ChipEight.Assembly

open Text

/-- Names and the values that they stand for, in the order of definition. -/
abbrev Labels := Array (List Char × Int)

def Labels.value? (labels : Labels) (name : List Char) : Option Int :=
  (labels.find? fun label => label.1 == name).map (·.2)

def register? : List Char → Option Register
  | [v, digit] =>
    if v = 'V' || v = 'v' then
      match Numeral.digitValue? digit with
      | some d => if h : d < 16 then some ⟨d, h⟩ else none
      | none => none
    else none
  | _ => none

def register (operand : List Char) : Except Cause Register :=
  match register? operand with
  | some x => .ok x
  | none => .error (.invalidRegister operand)

def radixOf : List Char → Numeral.Radix
  | '0' :: 'x' :: _ | '0' :: 'X' :: _ => .sixteen
  | '-' :: _ => .ten
  | _ => .byPrefix

def immediate (operand : List Char) : Except Cause Int :=
  (Numeral.parse (radixOf (trim operand)) (trim operand)).mapError .badNumeral

/-- The number that an operand stands for, by label first. -/
def resolve (labels : Labels) (operand : List Char) : Except Cause Int :=
  match labels.value? operand with
  | some value => .ok value
  | none => (immediate operand).mapError fun _ => .unresolved operand

/-- A number below the bound of its field, or the complaint that it is none. -/
def fit (quantity : Quantity) (value : Int) : Except Cause (Fin quantity.bound) :=
  if h : 0 ≤ value ∧ value < quantity.bound then .ok ⟨value.toNat, by omega⟩
  else .error (.tooWide quantity value)

/-- A byte operand; a negative number down to -128 is taken modulo 256. -/
def byte (labels : Labels) (operand : List Char) : Except Cause UInt8 := do
  let value ← resolve labels operand
  let b ← fit .byte (if -128 ≤ value ∧ value < 0 then value + 256 else value)
  return UInt8.ofNat b

def address (labels : Labels) (operand : List Char) : Except Cause Address := do
  let value ← resolve labels operand
  fit .address value

def word (labels : Labels) (operand : List Char) : Except Cause UInt16 := do
  let value ← resolve labels operand
  let w ← fit .word value
  return UInt16.ofNat w

/-- The height of a sprite, which no label can give. -/
def height (operand : List Char) : Except Cause Nibble := do
  let value ← immediate operand
  fit .height value

end ChipEight.Assembly
