import ChipEight.Assembly.Statement
import ChipEight.Instruction.Encoding
import ChipEight.Proofs.Except
import ChipEight.Proofs.Text.Fields
import ChipEight.Proofs.Text.Numeral

/-!
# Printed operands are read back

The text of an instruction is a mnemonic and operands, each a word of letters and digits.
`instruction_operandTexts` says that the assembler makes the same instruction of them, unless a
label has the spelling of an operand.
-/

namespace ChipEight

open Text

/-- The mnemonic with which the lines of an operation begin. -/
def Op.keyword : Op → Assembly.Mnemonic
  | .finish => .finish | .sys => .sys | .clear => .cls | .ret => .ret | .jump => .jp
  | .call => .call | .skipEqByte => .se | .skipNeByte => .sne | .skipEqReg => .se
  | .skipNeReg => .sne | .loadByte => .ld | .addByte => .add | .loadReg => .ld | .or => .or
  | .and => .and | .xor => .xor | .addReg => .add | .sub => .sub | .shiftRight => .shr
  | .subFrom => .subn | .shiftLeft => .shl | .loadIndex => .ld | .jumpOffset => .jp
  | .random => .rnd | .draw => .drw | .unknown => .dw

theorem Op.name_keyword (op : Op) : op.keyword.name = op.mnemonic := by cases op <;> rfl

theorem isWord_mnemonic (op : Op) : IsWord op.mnemonic.toList := by cases op <;> decide

/-! ### The texts of operands -/

theorem isWord_registerText : ∀ x : Register, IsWord (registerText x).toList := by decide

theorem isWord_prefixedHex (width n : Nat) : IsWord (prefixedHex width n).toList := by
  rw [Numeral.toList_prefixedHex]
  have digits := Numeral.areDigits_leftpad (width - 2) (by decide)
    (Numeral.areDigits_toDigits n (show 1 < 16 by decide))
  have alphanumeric : ∀ d < 16, (Nat.digitChar d).isAlphanum = true := by decide
  refine ⟨by simp, fun c hc => ?_⟩
  rcases List.mem_cons.mp hc with rfl | hc
  · decide
  rcases List.mem_cons.mp hc with rfl | hc
  · decide
  obtain ⟨d, hd, rfl⟩ := digits c hc
  exact alphanumeric d hd

theorem isWord_heightText : ∀ n : Nibble, IsWord (toString n.val).toList := by decide

theorem isWord_operandTexts (i : Instruction) : ∀ t ∈ i.operandTexts, IsWord t.toList := by
  have named : IsWord ['V', '0'] ∧ IsWord ['I'] := by decide
  cases i with
  | shiftRight x y | shiftLeft x y =>
    simp only [Instruction.operandTexts]
    split <;> simp [isWord_registerText]
  | _ =>
    simp [Instruction.operandTexts, targetText, byteText, addressHex, named, isWord_registerText,
      isWord_prefixedHex, isWord_heightText, -Nat.toString_eq_repr]

namespace Assembly

/-- A word spells the mnemonic that it is taken for. -/
theorem toList_name_of_ofWord? {word : List Char} {m : Mnemonic}
    (found : Mnemonic.ofWord? word = some m) : m.name.toList = upperAscii word := by
  have spelled := List.find?_some found
  exact beq_iff_eq.mp spelled

theorem register?_registerText : ∀ x : Register, register? (registerText x).toList = some x := by
  decide

theorem register_registerText (x : Register) : register (registerText x).toList = .ok x := by
  simp only [register, register?_registerText]

theorem immediate_prefixedHex (width n : Nat) :
    immediate (prefixedHex width n).toList = .ok (n : Int) := by
  have radix : radixOf (prefixedHex width n).toList = .sixteen := by
    rw [Numeral.toList_prefixedHex]
    rfl
  rw [immediate, (isWord_prefixedHex width n).trim_eq, radix, Numeral.parse_prefixedHex]
  rfl

variable {labels : Labels}

/-- What no label hides is the number that it spells. -/
theorem resolve_of_immediate {operand : List Char} {n : Int} (free : labels.value? operand = none)
    (spelled : immediate operand = .ok n) : resolve labels operand = .ok n := by
  simp only [resolve, free, spelled]
  rfl

theorem fit_ok {quantity : Quantity} {n : Nat} (h : n < quantity.bound) :
    fit quantity (n : Int) = .ok ⟨n, h⟩ := by
  rw [fit, dif_pos (by omega)]
  rfl

theorem address_targetText (target : Address)
    (free : labels.value? (targetText target).toList = none) :
    address labels (targetText target).toList = .ok target := by
  have spelled := resolve_of_immediate free (immediate_prefixedHex 5 target.val)
  simp only [address, spelled, ok_bind]
  have small : target.val < Quantity.address.bound := target.isLt
  exact fit_ok small

theorem byte_byteText (value : UInt8) (free : labels.value? (byteText value).toList = none) :
    byte labels (byteText value).toList = .ok value := by
  have spelled := resolve_of_immediate free (immediate_prefixedHex 4 value.toNat)
  have positive : ¬(-128 ≤ (value.toNat : Int) ∧ (value.toNat : Int) < 0) := by omega
  have small : value.toNat < Quantity.byte.bound := value.toNat_lt
  simp only [byte, spelled, ok_bind, if_neg positive, fit_ok small,
    pure_eq_ok, UInt8.ofNat_toNat]

theorem word_prefixedHex (w : UInt16)
    (free : labels.value? (prefixedHex 6 w.toNat).toList = none) :
    word labels (prefixedHex 6 w.toNat).toList = .ok w := by
  have spelled := resolve_of_immediate free (immediate_prefixedHex 6 w.toNat)
  have small : w.toNat < Quantity.word.bound := w.toNat_lt
  simp only [word, spelled, ok_bind, fit_ok small, pure_eq_ok, UInt16.ofNat_toNat]

theorem height_heightText (n : Nibble) : height (toString n.val).toList = .ok n := by
  have radix : ∀ n : Nibble, radixOf (toString n.val).toList = .byPrefix := by decide
  have short : ∀ n : Nibble, (Nat.toDigits 10 n.val).length ≤ 2 := by decide
  have read := Numeral.parse_toString n.val (Nat.le_trans (short n) (by decide))
  simp only [height, immediate, (isWord_heightText n).trim_eq, radix, read, ok_bind,
    mapError_ok]
  have small : n.val < Quantity.height.bound := n.isLt
  exact fit_ok small

theorem register?_prefixedHex (width n : Nat) : register? (prefixedHex width n).toList = none := by
  have nonempty : (Nat.toDigits 16 n).leftpad (width - 2) '0' ≠ [] := by simp [List.leftpad]
  obtain ⟨c, cs, digits⟩ := List.exists_cons_of_ne_nil nonempty
  rw [Numeral.toList_prefixedHex, digits]
  rfl

/-! ### Reading an instruction back -/

theorem registerOrByte_register (ofRegister : Register → Register → Instruction)
    (ofByte : Register → UInt8 → Instruction) (x y : Register) :
    Mnemonic.registerOrByte labels (registerText x).toList (registerText y).toList ofRegister
      ofByte = .ok (ofRegister x y) := by
  simp only [Mnemonic.registerOrByte, register_registerText, register?_registerText, ok_bind]
  rfl

theorem registerOrByte_byte (ofRegister : Register → Register → Instruction)
    (ofByte : Register → UInt8 → Instruction) (x : Register) (value : UInt8)
    (free : labels.value? (byteText value).toList = none) :
    Mnemonic.registerOrByte labels (registerText x).toList (byteText value).toList ofRegister
      ofByte = .ok (ofByte x value) := by
  have noRegister : register? (byteText value).toList = none := register?_prefixedHex 4 value.toNat
  simp only [Mnemonic.registerOrByte, register_registerText, noRegister, byte_byteText value free,
    ok_bind]
  rfl

theorem twoRegisters_registerText (f : Register → Register → Instruction) (x y : Register) :
    Mnemonic.twoRegisters (registerText x).toList (registerText y).toList f = .ok (f x y) := by
  simp only [Mnemonic.twoRegisters, register_registerText, ok_bind]
  rfl

/-- Mnemonic and operands of a printed instruction make that instruction again, unless a label
hides one of the operands. -/
theorem instruction_operandTexts (i : Instruction)
    (free : ∀ t ∈ i.operandTexts, labels.value? t.toList = none) :
    i.op.keyword.instruction labels (i.operandTexts.map String.toList) = .ok i := by
  have plain : ∀ x : Register, lowerAscii (registerText x).toList ≠ ['i'] := by decide
  have named : lowerAscii "V0".toList = ['v', '0'] ∧ lowerAscii "I".toList = ['i'] := by decide
  cases i with
  | finish | clear | ret => rfl
  | sys target | jump target | call target | jumpOffset target | loadIndex target =>
    have read := address_targetText target (free _ (by simp [Instruction.operandTexts]))
    simp only [Instruction.op, Op.keyword, Instruction.operandTexts, List.map, Mnemonic.instruction,
      named, read, if_true]
    rfl
  | skipEqByte x value | skipNeByte x value | addByte x value | loadByte x value =>
    have read := fun f g =>
      registerOrByte_byte f g x value (free _ (by simp [Instruction.operandTexts]))
    simp only [Instruction.op, Op.keyword, Instruction.operandTexts, List.map, Mnemonic.instruction,
      plain, if_false, read]
  | skipEqReg x y | skipNeReg x y | addReg x y | loadReg x y =>
    simp only [Instruction.op, Op.keyword, Instruction.operandTexts, List.map, Mnemonic.instruction,
      plain, if_false, registerOrByte_register]
  | or x y | and x y | xor x y | sub x y | subFrom x y =>
    simp only [Instruction.op, Op.keyword, Instruction.operandTexts, List.map, Mnemonic.instruction,
      twoRegisters_registerText]
  | random x mask =>
    have read := byte_byteText mask (free _ (by simp [Instruction.operandTexts]))
    simp only [Instruction.op, Op.keyword, Instruction.operandTexts, List.map, Mnemonic.instruction,
      register_registerText, read, ok_bind]
    rfl
  | draw x y n =>
    simp only [Instruction.op, Op.keyword, Instruction.operandTexts, List.map, Mnemonic.instruction,
      register_registerText, height_heightText, ok_bind]
    rfl
  | unknown w =>
    have read := word_prefixedHex w (free _ (by simp [Instruction.operandTexts]))
    simp only [Instruction.op, Op.keyword, Instruction.operandTexts, List.map, Mnemonic.instruction,
      read]
    rfl
  | shiftRight x y | shiftLeft x y =>
    simp only [Instruction.op, Op.keyword, Instruction.operandTexts]
    split
    · rename_i zero
      simp only [List.map, Mnemonic.instruction, Mnemonic.shift, register_registerText, ok_bind,
        zero]
      rfl
    · simp only [List.map, Mnemonic.instruction, Mnemonic.shift, register_registerText, ok_bind]
      rfl

end Assembly
end ChipEight
