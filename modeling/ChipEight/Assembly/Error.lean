import ChipEight.Storage
import ChipEight.Text.Numeral

/-!
# Mnemonics and errors

The words with which an instruction line begins, in either case, and what can be wrong with a line
and with a program as a whole.
-/

namespace ChipEight.Assembly

open Text

inductive Mnemonic where
  | cls | ret | finish | sys | jp | call | se | sne | ld | add | or | and | xor | sub | subn
  | shr | shl | rnd | drw
  /-- A word given as a number. -/
  | dw
  deriving DecidableEq, Repr

namespace Mnemonic

def name : Mnemonic → String
  | cls => "CLS" | ret => "RET" | finish => "END" | sys => "SYS" | jp => "JP" | call => "CALL"
  | se => "SE" | sne => "SNE" | ld => "LD" | add => "ADD" | or => "OR" | and => "AND"
  | xor => "XOR" | sub => "SUB" | subn => "SUBN" | shr => "SHR" | shl => "SHL" | rnd => "RND"
  | drw => "DRW" | dw => "DW"

def all : List Mnemonic :=
  [cls, ret, finish, sys, jp, call, se, sne, ld, add, or, and, xor, sub, subn, shr, shl, rnd, drw,
    dw]

/-- The mnemonic that a word spells in any mixture of cases. -/
def ofWord? (word : List Char) : Option Mnemonic :=
  all.find? fun m => m.name.toList == Text.upperAscii word

theorem ofWord?_name (m : Mnemonic) : ofWord? m.name.toList = some m := by cases m <;> decide

/-- The number of operands that a message asks for. -/
def arity : Mnemonic → Nat
  | cls | ret | finish => 0
  | sys | jp | call | dw => 1
  | se | sne | ld | add | or | and | xor | sub | subn | shr | shl | rnd => 2
  | drw => 3

end Mnemonic

/-! ### Errors -/

/-- The operands that have a limited width. -/
inductive Quantity where
  | byte
  | address
  | word
  | height
  deriving DecidableEq, Repr

namespace Quantity

def bits : Quantity → Nat
  | byte => 8
  | address => 12
  | word => 16
  | height => 4

def bound : Quantity → Nat
  | byte => 0x100
  | address => 0x1000
  | word => 0x10000
  | height => 0x10

def name : Quantity → String
  | byte => "Byte"
  | address => "Address"
  | word => "Word"
  | height => "Sprite height"

end Quantity

inductive Cause where
  | duplicateLabel (name : List Char)
  | invalidLabel (name : List Char)
  /-- The target of an origin lies below the line's address. -/
  | movesBackwards (target address : Int)
  | unknownMnemonic (word : List Char)
  | badNumeral (error : Numeral.Error)
  | unresolved (operand : List Char)
  | invalidRegister (operand : List Char)
  | tooWide (quantity : Quantity) (value : Int)
  | operandCount (mnemonic : Mnemonic) (count : Nat)
  /-- A jump with two operands takes `V0` as the first. -/
  | notIndexed
  | endsPastMemory (address : Int)
  deriving DecidableEq, Repr

def Cause.message : Cause → String
  | .duplicateLabel name => s!"Duplicate label: {String.ofList name}"
  | .invalidLabel name => s!"Invalid label name: {String.ofList (quoted name)}"
  | .movesBackwards target address =>
    s!".org {prefixedHex 0 target} moves backwards from {prefixedHex 0 address}"
  | .unknownMnemonic word => s!"Unknown mnemonic: {String.ofList (quoted word)}"
  | .badNumeral error => error.message
  | .unresolved operand => s!"Undefined label or bad number: {String.ofList (quoted operand)}"
  | .invalidRegister operand => s!"Invalid register: {String.ofList (quoted operand)}"
  | .tooWide quantity value =>
    s!"{quantity.name} {prefixedHex 0 value} does not fit in {quantity.bits} bits"
  | .operandCount .shr count => s!"SHR expects 1 or 2 operands, got {count}"
  | .operandCount .shl count => s!"SHL expects 1 or 2 operands, got {count}"
  | .operandCount mnemonic count =>
    s!"{mnemonic.name} expects {mnemonic.arity} operand(s), got {count}"
  | .notIndexed => "Indexed JP only takes V0"
  | .endsPastMemory address => s!"Program ends at {prefixedHex 0 address}, past the end of memory"

inductive Error where
  | line (number : Nat) (cause : Cause)
  /-- There is no memory for the padding of an origin. -/
  | padding (error : SizeError)
  /-- The two passes differ on the size of a line. -/
  | sizeMismatch (number counted emitted : Nat)
  /-- The program ends past memory, and no line can be blamed. -/
  | emptyProgram
  deriving DecidableEq, Repr

def Error.message : Error → String
  | .line number cause => s!"Line {number}: {cause.message}"
  | .padding error => error.message
  | .sizeMismatch number counted emitted =>
    s!"Size mismatch line {number}: expected {counted}, got {emitted}"
  | .emptyProgram => "list index out of range"

end ChipEight.Assembly
