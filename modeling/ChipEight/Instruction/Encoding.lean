import ChipEight.Instruction.Basic
import ChipEight.Text.Display

/-!
# Words and instructions

`decode` reads a word as an instruction and `encode` writes one as a word. Every word has a reading,
and `encode_decode` shows that the reading loses nothing. `Instruction.text` writes an instruction as
a line that assembles to its word: the mnemonic, then the operands between commas.
-/

namespace ChipEight

/-! ### The fields of a word -/

/-- The second digit of a word in base sixteen. -/
def fieldX (w : UInt16) : Register := ⟨w.toNat / 256 % 16, by omega⟩

/-- The third digit. -/
def fieldY (w : UInt16) : Register := ⟨w.toNat / 16 % 16, by omega⟩

/-- The last digit. -/
def fieldN (w : UInt16) : Nibble := ⟨w.toNat % 16, by omega⟩

/-- The last two digits. -/
def fieldByte (w : UInt16) : UInt8 := w.toUInt8

/-- The last three digits. -/
def fieldAddress (w : UInt16) : Address := ⟨w.toNat % 4096, by omega⟩

/-- The word of two bytes, the first one the more significant. -/
def wordOfBytes (b₀ b₁ : UInt8) : UInt16 := UInt16.ofNat (b₀.toNat * 256 + b₁.toNat)

def firstByte (w : UInt16) : UInt8 := UInt8.ofNat (w.toNat / 256)

def secondByte (w : UInt16) : UInt8 := w.toUInt8

/-! ### Decoding -/

/-- The operation on two registers that the last digit of a word of the eighth family selects. -/
def registerOp (n : Nat) : Op :=
  match n with
  | 0x0 => .loadReg
  | 0x1 => .or
  | 0x2 => .and
  | 0x3 => .xor
  | 0x4 => .addReg
  | 0x5 => .sub
  | 0x6 => .shiftRight
  | 0x7 => .subFrom
  | 0xE => .shiftLeft
  | _ => .unknown

def classify (w : UInt16) : Op :=
  match w.toNat / 4096 with
  | 0x0 => if w = 0x0000 then .finish else if w = 0x00E0 then .clear
    else if w = 0x00EE then .ret else .sys
  | 0x1 => .jump
  | 0x2 => .call
  | 0x3 => .skipEqByte
  | 0x4 => .skipNeByte
  | 0x5 => if w.toNat % 16 = 0 then .skipEqReg else .unknown
  | 0x6 => .loadByte
  | 0x7 => .addByte
  | 0x8 => registerOp (w.toNat % 16)
  | 0x9 => if w.toNat % 16 = 0 then .skipNeReg else .unknown
  | 0xA => .loadIndex
  | 0xB => .jumpOffset
  | 0xC => .random
  | 0xD => .draw
  | _ => .unknown

/-- The instruction of a given operation whose operands are read off `w`, whatever the operation
that `w` itself is. -/
def Op.withOperands (op : Op) (w : UInt16) : Instruction :=
  match op with
  | .finish => .finish
  | .sys => .sys (fieldAddress w)
  | .clear => .clear
  | .ret => .ret
  | .jump => .jump (fieldAddress w)
  | .call => .call (fieldAddress w)
  | .skipEqByte => .skipEqByte (fieldX w) (fieldByte w)
  | .skipNeByte => .skipNeByte (fieldX w) (fieldByte w)
  | .skipEqReg => .skipEqReg (fieldX w) (fieldY w)
  | .skipNeReg => .skipNeReg (fieldX w) (fieldY w)
  | .loadByte => .loadByte (fieldX w) (fieldByte w)
  | .addByte => .addByte (fieldX w) (fieldByte w)
  | .loadReg => .loadReg (fieldX w) (fieldY w)
  | .or => .or (fieldX w) (fieldY w)
  | .and => .and (fieldX w) (fieldY w)
  | .xor => .xor (fieldX w) (fieldY w)
  | .addReg => .addReg (fieldX w) (fieldY w)
  | .sub => .sub (fieldX w) (fieldY w)
  | .shiftRight => .shiftRight (fieldX w) (fieldY w)
  | .subFrom => .subFrom (fieldX w) (fieldY w)
  | .shiftLeft => .shiftLeft (fieldX w) (fieldY w)
  | .loadIndex => .loadIndex (fieldAddress w)
  | .jumpOffset => .jumpOffset (fieldAddress w)
  | .random => .random (fieldX w) (fieldByte w)
  | .draw => .draw (fieldX w) (fieldY w) (fieldN w)
  | .unknown => .unknown w

@[simp] theorem Op.op_withOperands (op : Op) (w : UInt16) : (op.withOperands w).op = op := by
  cases op <;> rfl

def decode (w : UInt16) : Instruction := (classify w).withOperands w

@[simp] theorem op_decode (w : UInt16) : (decode w).op = classify w := Op.op_withOperands _ _

def decodeBytes (b₀ b₁ : UInt8) : Instruction := decode (wordOfBytes b₀ b₁)

/-! ### Encoding -/

/-- The word `fxkk`. -/
def wordOfByte (f : Nat) (x : Register) (byte : UInt8) : UInt16 :=
  UInt16.ofNat (f * 4096 + x * 256 + byte.toNat)

/-- The word `fxyn`. -/
def wordOfRegisters (f : Nat) (x y : Register) (n : Nat) : UInt16 :=
  UInt16.ofNat (f * 4096 + x * 256 + y * 16 + n)

/-- The word `fnnn`. -/
def wordOfAddress (f : Nat) (target : Address) : UInt16 := UInt16.ofNat (f * 4096 + target)

def Instruction.encode : Instruction → UInt16
  | finish => 0x0000
  | sys target => wordOfAddress 0x0 target
  | clear => 0x00E0
  | ret => 0x00EE
  | jump target => wordOfAddress 0x1 target
  | call target => wordOfAddress 0x2 target
  | skipEqByte x byte => wordOfByte 0x3 x byte
  | skipNeByte x byte => wordOfByte 0x4 x byte
  | skipEqReg x y => wordOfRegisters 0x5 x y 0x0
  | skipNeReg x y => wordOfRegisters 0x9 x y 0x0
  | loadByte x byte => wordOfByte 0x6 x byte
  | addByte x byte => wordOfByte 0x7 x byte
  | loadReg x y => wordOfRegisters 0x8 x y 0x0
  | or x y => wordOfRegisters 0x8 x y 0x1
  | and x y => wordOfRegisters 0x8 x y 0x2
  | xor x y => wordOfRegisters 0x8 x y 0x3
  | addReg x y => wordOfRegisters 0x8 x y 0x4
  | sub x y => wordOfRegisters 0x8 x y 0x5
  | shiftRight x y => wordOfRegisters 0x8 x y 0x6
  | subFrom x y => wordOfRegisters 0x8 x y 0x7
  | shiftLeft x y => wordOfRegisters 0x8 x y 0xE
  | loadIndex target => wordOfAddress 0xA target
  | jumpOffset target => wordOfAddress 0xB target
  | random x mask => wordOfByte 0xC x mask
  | draw x y height => wordOfRegisters 0xD x y height
  | unknown word => word

theorem wordOfByte_fields {f : Nat} {w : UInt16} (hf : w.toNat / 4096 = f) :
    wordOfByte f (fieldX w) (fieldByte w) = w := by
  apply UInt16.toNat_inj.mp
  have := w.toNat_lt
  simp only [wordOfByte, fieldX, fieldByte, UInt16.toNat_ofNat', UInt16.toNat_toUInt8]
  omega

theorem wordOfRegisters_fields {f n : Nat} {w : UInt16} (hf : w.toNat / 4096 = f)
    (hn : w.toNat % 16 = n) : wordOfRegisters f (fieldX w) (fieldY w) n = w := by
  apply UInt16.toNat_inj.mp
  have := w.toNat_lt
  simp only [wordOfRegisters, fieldX, fieldY, UInt16.toNat_ofNat']
  omega

theorem wordOfAddress_fields {f : Nat} {w : UInt16} (hf : w.toNat / 4096 = f) :
    wordOfAddress f (fieldAddress w) = w := by
  apply UInt16.toNat_inj.mp
  have := w.toNat_lt
  simp only [wordOfAddress, fieldAddress, UInt16.toNat_ofNat']
  omega

/-- Decoding loses nothing. -/
theorem encode_decode (w : UInt16) : (decode w).encode = w := by
  unfold decode classify
  split <;> rename_i hf
  · split
    · simp_all [Op.withOperands, Instruction.encode]
    · split
      · simp_all [Op.withOperands, Instruction.encode]
      · split
        · simp_all [Op.withOperands, Instruction.encode]
        · exact wordOfAddress_fields hf
  · exact wordOfAddress_fields hf
  · exact wordOfAddress_fields hf
  · exact wordOfByte_fields hf
  · exact wordOfByte_fields hf
  · split
    · exact wordOfRegisters_fields hf (by assumption)
    · rfl
  · exact wordOfByte_fields hf
  · exact wordOfByte_fields hf
  · unfold registerOp
    split <;> first | rfl | exact wordOfRegisters_fields hf (by assumption)
  · split
    · exact wordOfRegisters_fields hf (by assumption)
    · rfl
  · exact wordOfAddress_fields hf
  · exact wordOfAddress_fields hf
  · exact wordOfByte_fields hf
  · exact wordOfRegisters_fields hf rfl
  · rfl

/-! ### The text of an instruction -/

open Text

def registerText (x : Register) : String := "V" ++ capitalHex 1 x.val

def targetText (target : Address) : String := addressHex target.val

def byteText (byte : UInt8) : String := prefixedHex 4 byte.toNat

namespace Instruction

/-- The operands as they are written. A shift shows its second register only if it is not `V0`. -/
def operandTexts : Instruction → List String
  | finish | clear | ret => []
  | sys target | jump target | call target => [targetText target]
  | jumpOffset target => ["V0", targetText target]
  | loadIndex target => ["I", targetText target]
  | skipEqByte x byte | skipNeByte x byte | loadByte x byte | addByte x byte | random x byte =>
    [registerText x, byteText byte]
  | shiftRight x y | shiftLeft x y =>
    if y = indexingRegister then [registerText x] else [registerText x, registerText y]
  | draw x y height => [registerText x, registerText y, toString height.val]
  | unknown word => [prefixedHex 6 word.toNat]
  | skipEqReg x y | skipNeReg x y | loadReg x y | or x y | and x y | xor x y | addReg x y | sub x y
  | subFrom x y => [registerText x, registerText y]

def text (i : Instruction) : String :=
  match i.operandTexts with
  | [] => i.op.mnemonic
  | operands => i.op.mnemonic ++ " " ++ ", ".intercalate operands

end Instruction

end ChipEight
