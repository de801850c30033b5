import ChipEight.Instruction.Encoding

/-!
# Reading an encoded instruction

The fields of a word made of operands are those operands, so decoding undoes encoding. Only the
calls of machine routines that have the words of three other instructions are read as those.
-/

namespace ChipEight

/-! ### The fields of a word made of operands -/

theorem family_wordOfByte {f : Nat} (small : f < 16) (x : Register) (byte : UInt8) :
    (wordOfByte f x byte).toNat / 4096 = f := by
  have := byte.toNat_lt
  simp only [wordOfByte, UInt16.toNat_ofNat']
  omega

theorem family_wordOfRegisters {f n : Nat} (small : f < 16) (digit : n < 16) (x y : Register) :
    (wordOfRegisters f x y n).toNat / 4096 = f := by
  simp only [wordOfRegisters, UInt16.toNat_ofNat']
  omega

theorem family_wordOfAddress {f : Nat} (small : f < 16) (target : Address) :
    (wordOfAddress f target).toNat / 4096 = f := by
  simp only [wordOfAddress, UInt16.toNat_ofNat']
  omega

theorem fieldX_wordOfByte {f : Nat} (x : Register) (byte : UInt8) :
    fieldX (wordOfByte f x byte) = x := by
  have := byte.toNat_lt
  apply Fin.ext
  simp only [fieldX, wordOfByte, UInt16.toNat_ofNat']
  omega

theorem fieldByte_wordOfByte {f : Nat} (x : Register) (byte : UInt8) :
    fieldByte (wordOfByte f x byte) = byte := by
  have := byte.toNat_lt
  apply UInt8.toNat_inj.mp
  simp only [fieldByte, wordOfByte, UInt16.toNat_toUInt8, UInt16.toNat_ofNat']
  omega

theorem fieldX_wordOfRegisters {f n : Nat} (digit : n < 16) (x y : Register) :
    fieldX (wordOfRegisters f x y n) = x := by
  apply Fin.ext
  simp only [fieldX, wordOfRegisters, UInt16.toNat_ofNat']
  omega

theorem fieldY_wordOfRegisters {f n : Nat} (digit : n < 16) (x y : Register) :
    fieldY (wordOfRegisters f x y n) = y := by
  apply Fin.ext
  simp only [fieldY, wordOfRegisters, UInt16.toNat_ofNat']
  omega

theorem digit_wordOfRegisters {f n : Nat} (digit : n < 16) (x y : Register) :
    (wordOfRegisters f x y n).toNat % 16 = n := by
  simp only [wordOfRegisters, UInt16.toNat_ofNat']
  omega

theorem fieldAddress_wordOfAddress {f : Nat} (target : Address) :
    fieldAddress (wordOfAddress f target) = target := by
  apply Fin.ext
  simp only [fieldAddress, wordOfAddress, UInt16.toNat_ofNat']
  omega

theorem wordOfAddress_zero_eq_iff (target : Address) {n : Nat} (small : n < 4096) :
    wordOfAddress 0 target = UInt16.ofNat n ↔ target = ⟨n, small⟩ := by
  rw [← UInt16.toNat_inj, Fin.ext_iff]
  simp only [wordOfAddress, UInt16.toNat_ofNat']
  omega

/-! ### Decoding what was encoded -/

/-- What the word of an instruction is read as. -/
def Instruction.reread : Instruction → Instruction
  | sys target =>
    if target = 0x000 then finish else if target = 0x0E0 then clear
    else if target = 0x0EE then ret else sys target
  | i => i

theorem classify_wordOfAddress_zero (target : Address) : classify (wordOfAddress 0 target) =
    if target = 0x000 then .finish else if target = 0x0E0 then .clear
    else if target = 0x0EE then .ret else .sys := by
  have finish := wordOfAddress_zero_eq_iff target (show 0x000 < 4096 by decide)
  have clear := wordOfAddress_zero_eq_iff target (show 0x0E0 < 4096 by decide)
  have ret := wordOfAddress_zero_eq_iff target (show 0x0EE < 4096 by decide)
  unfold classify
  rw [family_wordOfAddress (by decide)]
  exact ite_congr (propext finish) (fun _ => rfl) fun _ =>
    ite_congr (propext clear) (fun _ => rfl) fun _ =>
      ite_congr (propext ret) (fun _ => rfl) fun _ => rfl

/-- Decoding undoes encoding, but for the words that two instructions have. -/
theorem decode_encode {i : Instruction} (known : i.op ≠ .unknown) :
    decode i.encode = i.reread := by
  cases i with
  | unknown w => exact absurd rfl known
  | finish | clear | ret => rfl
  | sys target =>
    simp only [decode, Instruction.encode, classify_wordOfAddress_zero, Instruction.reread]
    split
    · rfl
    split
    · rfl
    split
    · rfl
    · exact congrArg Instruction.sys (fieldAddress_wordOfAddress target)
  | jump target | call target | loadIndex target | jumpOffset target =>
    simp [decode, classify, Instruction.encode, Instruction.reread, Op.withOperands,
      family_wordOfAddress, fieldAddress_wordOfAddress]
  | skipEqByte x byte | skipNeByte x byte | loadByte x byte | addByte x byte | random x byte =>
    simp [decode, classify, Instruction.encode, Instruction.reread, Op.withOperands,
      family_wordOfByte, fieldX_wordOfByte, fieldByte_wordOfByte]
  | draw x y height =>
    have digit := digit_wordOfRegisters (f := 0xD) height.isLt x y
    simp [decode, classify, Instruction.encode, Instruction.reread, Op.withOperands,
      family_wordOfRegisters, fieldX_wordOfRegisters, fieldY_wordOfRegisters, fieldN, digit]
  | _ =>
    simp [decode, classify, registerOp, Instruction.encode, Instruction.reread, Op.withOperands,
      family_wordOfRegisters, fieldX_wordOfRegisters, fieldY_wordOfRegisters,
      digit_wordOfRegisters]

end ChipEight
