/-!
# Instructions

An instruction is two bytes. Its first four bits, and for some families its last ones, say which of
the twenty-six operations it is; the other bits hold the operands, named by their place in the word
`_xyn`, `_xkk` or `_nnn`. `Instruction` keeps for each operation just the operands it has.
-/

namespace ChipEight

/-- The number of one of the registers `V0` to `VF`. -/
abbrev Register := Fin 16

/-- `V0`, which an indexed jump adds to its target. -/
def indexingRegister : Register := 0

/-- `VF`, into which arithmetic and drawing report. -/
def flagRegister : Register := 15

abbrev Address := Fin 4096

abbrev Nibble := Fin 16

inductive Op where
  | finish | sys | clear | ret | jump | call
  | skipEqByte | skipNeByte | skipEqReg | skipNeReg
  | loadByte | addByte | loadReg | or | and | xor | addReg | sub | shiftRight | subFrom | shiftLeft
  | loadIndex | jumpOffset | random | draw
  /-- Any word that is no instruction. -/
  | unknown
  deriving DecidableEq, Repr

/-- The name of an operation, which tells its forms apart. -/
def Op.name : Op → String
  | .finish => "END" | .sys => "SYS" | .clear => "CLS" | .ret => "RET" | .jump => "JP"
  | .call => "CALL" | .skipEqByte => "SE_BYTE" | .skipNeByte => "SNE_BYTE"
  | .skipEqReg => "SE_REG" | .skipNeReg => "SNE_REG" | .loadByte => "LD_BYTE"
  | .addByte => "ADD_BYTE" | .loadReg => "LD_REG" | .or => "OR" | .and => "AND" | .xor => "XOR"
  | .addReg => "ADD_REG" | .sub => "SUB" | .shiftRight => "SHR" | .subFrom => "SUBN"
  | .shiftLeft => "SHL" | .loadIndex => "LD_I" | .jumpOffset => "JP_V0" | .random => "RND"
  | .draw => "DRW" | .unknown => "UNKNOWN"

/-- The word with which a line of assembly text begins. -/
def Op.mnemonic : Op → String
  | .skipEqByte | .skipEqReg => "SE"
  | .skipNeByte | .skipNeReg => "SNE"
  | .loadByte | .loadReg | .loadIndex => "LD"
  | .addByte | .addReg => "ADD"
  | .jumpOffset => "JP"
  | .unknown => "DW"
  | op => op.name

def Op.hasDestination : Op → Bool
  | .loadByte | .addByte | .loadReg | .or | .and | .xor | .addReg | .sub | .shiftRight | .subFrom
  | .shiftLeft | .random => true
  | _ => false

inductive Instruction where
  | finish
  | sys (target : Address)
  | clear
  | ret
  | jump (target : Address)
  | call (target : Address)
  | skipEqByte (x : Register) (byte : UInt8)
  | skipNeByte (x : Register) (byte : UInt8)
  | skipEqReg (x y : Register)
  | skipNeReg (x y : Register)
  | loadByte (x : Register) (byte : UInt8)
  | addByte (x : Register) (byte : UInt8)
  | loadReg (x y : Register)
  | or (x y : Register)
  | and (x y : Register)
  | xor (x y : Register)
  | addReg (x y : Register)
  | sub (x y : Register)
  /-- The machine ignores `y`; it is part of the word. -/
  | shiftRight (x y : Register)
  /-- `y` less `x`, into `x`. -/
  | subFrom (x y : Register)
  /-- The machine ignores `y`; it is part of the word. -/
  | shiftLeft (x y : Register)
  | loadIndex (target : Address)
  | jumpOffset (target : Address)
  | random (x : Register) (mask : UInt8)
  | draw (x y : Register) (height : Nibble)
  | unknown (word : UInt16)
  deriving DecidableEq, Repr

namespace Instruction

def op : Instruction → Op
  | finish => .finish | sys _ => .sys | clear => .clear | ret => .ret | jump _ => .jump
  | call _ => .call | skipEqByte .. => .skipEqByte | skipNeByte .. => .skipNeByte
  | skipEqReg .. => .skipEqReg | skipNeReg .. => .skipNeReg | loadByte .. => .loadByte
  | addByte .. => .addByte | loadReg .. => .loadReg | or .. => .or | and .. => .and
  | xor .. => .xor | addReg .. => .addReg | sub .. => .sub | shiftRight .. => .shiftRight
  | subFrom .. => .subFrom | shiftLeft .. => .shiftLeft | loadIndex _ => .loadIndex
  | jumpOffset _ => .jumpOffset | random .. => .random | draw .. => .draw | unknown _ => .unknown

def destination? : Instruction → Option Register
  | loadByte x _ | addByte x _ | loadReg x _ | or x _ | and x _ | xor x _ | addReg x _ | sub x _
  | shiftRight x _ | subFrom x _ | shiftLeft x _ | random x _ => some x
  | _ => none

end Instruction

end ChipEight
