import ChipEight.Assembly.Operand
import ChipEight.Instruction.Encoding

/-!
# Statements

A line that is no label is a directive or an instruction. `Statement.ofText` tells which, and
`Mnemonic.instruction` makes an instruction of a mnemonic and its operands.
-/

namespace ChipEight.Assembly

open Text

inductive Statement where
  | origin (operand : List Char)
  | bytes (operands : List (List Char))
  | words (operands : List (List Char))
  | instruction (mnemonic : Mnemonic) (operands : List (List Char))
  deriving DecidableEq, Repr

/-- What follows `directive`, which is small letters after a point, at the beginning of `text`. -/
def afterDirective? (directive : String) (text : List Char) : Option (List Char) :=
  let n := directive.length
  if lowerAscii (text.take n) = directive.toList then some (text.drop n) else none

namespace Statement

def ofInstructionText (text : List Char) : Except Cause Statement :=
  let (word, operands) := splitWord text
  match Mnemonic.ofWord? word with
  | some mnemonic => .ok (.instruction mnemonic (commaFields operands))
  | none => .error (.unknownMnemonic word)

/-- The statement that a line makes. A directive needs no blank after it. -/
def ofText (text : List Char) : Except Cause Statement :=
  match afterDirective? ".org" text, afterDirective? ".db" text, afterDirective? ".dw" text with
  | some operand, _, _ => .ok (.origin operand)
  | none, some operands, _ => .ok (.bytes (commaFields operands))
  | none, none, some operands => .ok (.words (commaFields operands))
  | none, none, none => ofInstructionText text

def isOrigin : Statement → Bool
  | origin _ => true
  | _ => false

end Statement

namespace Mnemonic

/-- A comparison or load of a register with or from a register or a byte. -/
def registerOrByte (labels : Labels) (a b : List Char)
    (ofRegister : Register → Register → Instruction) (ofByte : Register → UInt8 → Instruction) :
    Except Cause Instruction := do
  let x ← register a
  match register? b with
  | some y => return ofRegister x y
  | none =>
    let value ← byte labels b
    return ofByte x value

def twoRegisters (a b : List Char) (f : Register → Register → Instruction) :
    Except Cause Instruction := do
  let x ← register a
  let y ← register b
  return f x y

/-- A shift. Its second register, `V0` if it is left out, is read before the first. -/
def shift (a : List Char) (b? : Option (List Char)) (f : Register → Register → Instruction) :
    Except Cause Instruction := do
  let y ← match b? with
    | some b => register b
    | none => .ok indexingRegister
  let x ← register a
  return f x y

def instruction (labels : Labels) (m : Mnemonic) (operands : List (List Char)) :
    Except Cause Instruction :=
  match m, operands with
  | cls, [] => .ok .clear
  | ret, [] => .ok .ret
  | finish, [] => .ok .finish
  | sys, [a] => (address labels a).map .sys
  | jp, [a] => (address labels a).map .jump
  | jp, [a, b] =>
    if lowerAscii a = ['v', '0'] then (address labels b).map .jumpOffset else .error .notIndexed
  | call, [a] => (address labels a).map .call
  | se, [a, b] => registerOrByte labels a b .skipEqReg .skipEqByte
  | sne, [a, b] => registerOrByte labels a b .skipNeReg .skipNeByte
  | ld, [a, b] =>
    if lowerAscii a = ['i'] then (address labels b).map .loadIndex
    else registerOrByte labels a b .loadReg .loadByte
  | add, [a, b] => registerOrByte labels a b .addReg .addByte
  | or, [a, b] => twoRegisters a b .or
  | and, [a, b] => twoRegisters a b .and
  | xor, [a, b] => twoRegisters a b .xor
  | sub, [a, b] => twoRegisters a b .sub
  | subn, [a, b] => twoRegisters a b .subFrom
  | shr, [a] => shift a none .shiftRight
  | shr, [a, b] => shift a (some b) .shiftRight
  | shl, [a] => shift a none .shiftLeft
  | shl, [a, b] => shift a (some b) .shiftLeft
  | rnd, [a, b] => do
    let x ← register a
    let mask ← byte labels b
    return .random x mask
  | drw, [a, b, c] => do
    let n ← height c
    let x ← register a
    let y ← register b
    return .draw x y n
  | dw, [a] => (word labels a).map .unknown
  | m, operands => .error (.operandCount m operands.length)

end Mnemonic

end ChipEight.Assembly
