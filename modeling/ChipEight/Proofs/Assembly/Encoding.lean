import ChipEight.Proofs.Assembly.Emission
import ChipEight.Proofs.Assembly.Meaning
import ChipEight.Proofs.Assembly.Operand
import ChipEight.Proofs.Instruction.Encoding

/-!
# What the line of an instruction means

`Instruction.WrittenAs` says for each instruction which operands spell it. The assembler makes an
instruction of a mnemonic and operands exactly if they spell it, and the word that it emits is read
as that instruction again.
-/

namespace ChipEight.Assembly

open Text

variable {labels : Labels}

/-! ### The operands of an instruction -/

/-- The operands spell the instruction. What names a register is no byte operand. -/
def WrittenAs (labels : Labels) (operands : List (List Char)) : Instruction → Prop
  | .finish | .clear | .ret => operands = []
  | .sys target | .jump target | .call target =>
    ∃ a, operands = [a] ∧ AddressOperand labels a target
  | .jumpOffset target =>
    ∃ a b, operands = [a, b] ∧ NamesRegister a indexingRegister ∧ AddressOperand labels b target
  | .loadIndex target =>
    ∃ a b, operands = [a, b] ∧ upperAscii a = ['I'] ∧ AddressOperand labels b target
  | .skipEqByte x byte | .skipNeByte x byte | .loadByte x byte | .addByte x byte =>
    ∃ a b, operands = [a, b] ∧ NamesRegister a x ∧ (∀ y, ¬NamesRegister b y) ∧
      ByteOperand labels b byte
  | .random x mask =>
    ∃ a b, operands = [a, b] ∧ NamesRegister a x ∧ ByteOperand labels b mask
  | .skipEqReg x y | .skipNeReg x y | .loadReg x y | .or x y | .and x y | .xor x y | .addReg x y
  | .sub x y | .subFrom x y =>
    ∃ a b, operands = [a, b] ∧ NamesRegister a x ∧ NamesRegister b y
  | .shiftRight x y | .shiftLeft x y =>
    (∃ a, operands = [a] ∧ NamesRegister a x ∧ y = indexingRegister) ∨
      ∃ a b, operands = [a, b] ∧ NamesRegister a x ∧ NamesRegister b y
  | .draw x y height =>
    ∃ a b c, operands = [a, b, c] ∧ NamesRegister a x ∧ NamesRegister b y ∧ HeightOperand c height
  | .unknown word => ∃ a, operands = [a] ∧ WordOperand labels a word

theorem map_address_eq_ok {a : List Char} {f : Address → Instruction} {i : Instruction} :
    (address labels a).map f = .ok i ↔ ∃ target, AddressOperand labels a target ∧ f target = i := by
  simp only [map_eq_ok, address_eq_ok]

theorem registerOrByte_eq_ok {a b : List Char} {ofRegister : Register → Register → Instruction}
    {ofByte : Register → UInt8 → Instruction} {i : Instruction} :
    Mnemonic.registerOrByte labels a b ofRegister ofByte = .ok i ↔
      ∃ x, NamesRegister a x ∧ ((∃ y, NamesRegister b y ∧ ofRegister x y = i) ∨
        (∀ y, ¬NamesRegister b y) ∧ ∃ value, ByteOperand labels b value ∧ ofByte x value = i) := by
  simp only [Mnemonic.registerOrByte, bind_eq_ok, register_eq_ok]
  refine exists_congr fun x => and_congr_right fun _ => ?_
  cases named : register? b with
  | some y =>
    have names := register?_eq_some_iff.mp named
    simp only [pure_eq_ok, Except.ok.injEq]
    constructor
    · exact fun made => .inl ⟨y, names, made⟩
    · rintro (⟨y', names', made⟩ | ⟨none, -⟩)
      · obtain rfl := Option.some.inj (named.symm.trans (register?_eq_some_iff.mpr names'))
        exact made
      · exact absurd names (none y)
  | none =>
    have none := register?_eq_none_iff.mp named
    simp only [bind_eq_ok, byte_eq_ok, pure_eq_ok, Except.ok.injEq]
    constructor
    · exact fun made => .inr ⟨none, made⟩
    · rintro (⟨y, names, -⟩ | ⟨-, made⟩)
      · exact absurd names (none y)
      · exact made

theorem twoRegisters_eq_ok {a b : List Char} {f : Register → Register → Instruction}
    {i : Instruction} :
    Mnemonic.twoRegisters a b f = .ok i ↔
      ∃ x y, NamesRegister a x ∧ NamesRegister b y ∧ f x y = i := by
  simp only [Mnemonic.twoRegisters, bind_eq_ok, register_eq_ok, pure_eq_ok, Except.ok.injEq,
    exists_and_left]

theorem shift_none_eq_ok {a : List Char} {f : Register → Register → Instruction}
    {i : Instruction} :
    Mnemonic.shift a none f = .ok i ↔ ∃ x, NamesRegister a x ∧ f x indexingRegister = i := by
  simp only [Mnemonic.shift, ok_bind, bind_eq_ok, register_eq_ok, pure_eq_ok, Except.ok.injEq]

theorem shift_some_eq_ok {a b : List Char} {f : Register → Register → Instruction}
    {i : Instruction} :
    Mnemonic.shift a (some b) f = .ok i ↔
      ∃ x y, NamesRegister a x ∧ NamesRegister b y ∧ f x y = i := by
  simp only [Mnemonic.shift, bind_eq_ok, register_eq_ok, pure_eq_ok, Except.ok.injEq]
  constructor
  · rintro ⟨y, hy, x, hx, made⟩
    exact ⟨x, y, hx, hy, made⟩
  · rintro ⟨x, y, hx, hy, made⟩
    exact ⟨y, hy, x, hx, made⟩

/-- What a mnemonic and operands make has that mnemonic and is written so. -/
theorem writtenAs_of_instruction {m : Mnemonic} {operands : List (List Char)} {i : Instruction}
    (made : m.instruction labels operands = .ok i) :
    i.op.keyword = m ∧ WrittenAs labels operands i := by
  unfold Mnemonic.instruction at made
  split at made
  -- no operands
  case h_1 | h_2 | h_3 =>
    cases made
    exact ⟨rfl, rfl⟩
  -- an address alone
  case h_4 | h_5 | h_7 =>
    obtain ⟨target, named, rfl⟩ := map_address_eq_ok.mp made
    exact ⟨rfl, _, rfl, named⟩
  -- the indexed jump
  case h_6 =>
    split at made
    · rename_i zeroth
      obtain ⟨target, named, rfl⟩ := map_address_eq_ok.mp made
      exact ⟨rfl, _, _, rfl, lowerAscii_eq_zeroth.mp zeroth, named⟩
    · cases made
  -- a register and a register or byte
  case h_8 | h_9 | h_11 =>
    obtain ⟨x, hx, ⟨y, hy, rfl⟩ | ⟨none, value, named, rfl⟩⟩ := registerOrByte_eq_ok.mp made
    · exact ⟨rfl, _, _, rfl, hx, hy⟩
    · exact ⟨rfl, _, _, rfl, hx, none, named⟩
  -- the loads
  case h_10 =>
    split at made
    · rename_i index
      obtain ⟨target, named, rfl⟩ := map_address_eq_ok.mp made
      exact ⟨rfl, _, _, rfl, lowerAscii_eq_index.mp index, named⟩
    · obtain ⟨x, hx, ⟨y, hy, rfl⟩ | ⟨none, value, named, rfl⟩⟩ := registerOrByte_eq_ok.mp made
      · exact ⟨rfl, _, _, rfl, hx, hy⟩
      · exact ⟨rfl, _, _, rfl, hx, none, named⟩
  -- two registers
  case h_12 | h_13 | h_14 | h_15 | h_16 =>
    obtain ⟨x, y, hx, hy, rfl⟩ := twoRegisters_eq_ok.mp made
    exact ⟨rfl, _, _, rfl, hx, hy⟩
  -- the shifts
  case h_17 | h_19 =>
    obtain ⟨x, hx, rfl⟩ := shift_none_eq_ok.mp made
    exact ⟨rfl, .inl ⟨_, rfl, hx, rfl⟩⟩
  case h_18 | h_20 =>
    obtain ⟨x, y, hx, hy, rfl⟩ := shift_some_eq_ok.mp made
    exact ⟨rfl, .inr ⟨_, _, rfl, hx, hy⟩⟩
  -- random bytes, sprites and words
  case h_21 =>
    simp only [bind_eq_ok, register_eq_ok, byte_eq_ok, pure_eq_ok, Except.ok.injEq] at made
    obtain ⟨x, hx, mask, named, rfl⟩ := made
    exact ⟨rfl, _, _, rfl, hx, named⟩
  case h_22 =>
    simp only [bind_eq_ok, register_eq_ok, height_eq_ok, pure_eq_ok, Except.ok.injEq] at made
    obtain ⟨n, spelled, x, hx, y, hy, rfl⟩ := made
    exact ⟨rfl, _, _, _, rfl, hx, hy, spelled⟩
  case h_23 =>
    simp only [map_eq_ok, word_eq_ok] at made
    obtain ⟨w, named, rfl⟩ := made
    exact ⟨rfl, _, rfl, named⟩
  case h_24 => cases made

theorem not_index_of_namesRegister {operand : List Char} {x : Register}
    (named : NamesRegister operand x) : lowerAscii operand ≠ ['i'] := by
  intro index
  rw [NamesRegister, lowerAscii_eq_index.mp index, toList_registerText] at named
  cases named

/-- Operands that spell an instruction make it, behind its mnemonic. -/
theorem instruction_of_writtenAs {operands : List (List Char)} {i : Instruction}
    (written : WrittenAs labels operands i) : i.op.keyword.instruction labels operands = .ok i := by
  cases i with
  | finish | clear | ret =>
    obtain rfl := written
    rfl
  | sys target | jump target | call target =>
    obtain ⟨a, rfl, named⟩ := written
    exact map_address_eq_ok.mpr ⟨target, named, rfl⟩
  | jumpOffset target =>
    obtain ⟨a, b, rfl, zeroth, named⟩ := written
    exact (if_pos (lowerAscii_eq_zeroth.mpr zeroth)).trans
      (map_address_eq_ok.mpr ⟨target, named, rfl⟩)
  | loadIndex target =>
    obtain ⟨a, b, rfl, index, named⟩ := written
    exact (if_pos (lowerAscii_eq_index.mpr index)).trans
      (map_address_eq_ok.mpr ⟨target, named, rfl⟩)
  | skipEqByte x value | skipNeByte x value | addByte x value =>
    obtain ⟨a, b, rfl, hx, none, named⟩ := written
    exact registerOrByte_eq_ok.mpr ⟨x, hx, .inr ⟨none, value, named, rfl⟩⟩
  | loadByte x value =>
    obtain ⟨a, b, rfl, hx, none, named⟩ := written
    exact (if_neg (not_index_of_namesRegister hx)).trans
      (registerOrByte_eq_ok.mpr ⟨x, hx, .inr ⟨none, value, named, rfl⟩⟩)
  | skipEqReg x y | skipNeReg x y | addReg x y =>
    obtain ⟨a, b, rfl, hx, hy⟩ := written
    exact registerOrByte_eq_ok.mpr ⟨x, hx, .inl ⟨y, hy, rfl⟩⟩
  | loadReg x y =>
    obtain ⟨a, b, rfl, hx, hy⟩ := written
    exact (if_neg (not_index_of_namesRegister hx)).trans
      (registerOrByte_eq_ok.mpr ⟨x, hx, .inl ⟨y, hy, rfl⟩⟩)
  | or x y | and x y | xor x y | sub x y | subFrom x y =>
    obtain ⟨a, b, rfl, hx, hy⟩ := written
    exact twoRegisters_eq_ok.mpr ⟨x, y, hx, hy, rfl⟩
  | shiftRight x y | shiftLeft x y =>
    obtain ⟨a, rfl, hx, rfl⟩ | ⟨a, b, rfl, hx, hy⟩ := written
    · exact shift_none_eq_ok.mpr ⟨x, hx, rfl⟩
    · exact shift_some_eq_ok.mpr ⟨x, y, hx, hy, rfl⟩
  | random x mask =>
    obtain ⟨a, b, rfl, hx, named⟩ := written
    simp only [Instruction.op, Op.keyword, Mnemonic.instruction, register_eq_ok.mpr hx,
      byte_eq_ok.mpr named, ok_bind, pure_eq_ok]
  | draw x y n =>
    obtain ⟨a, b, c, rfl, hx, hy, spelled⟩ := written
    simp only [Instruction.op, Op.keyword, Mnemonic.instruction, register_eq_ok.mpr hx,
      register_eq_ok.mpr hy, height_eq_ok.mpr spelled, ok_bind, pure_eq_ok]
  | unknown w =>
    obtain ⟨a, rfl, named⟩ := written
    exact map_eq_ok.mpr ⟨w, word_eq_ok.mpr named, rfl⟩

/-! ### The line of an instruction -/

def isDirective (text : List Char) : Bool :=
  (afterDirective? ".org" text).isSome || (afterDirective? ".db" text).isSome ||
    (afterDirective? ".dw" text).isSome

theorem ofText_of_not_isDirective {text : List Char} (plain : isDirective text = false) :
    Statement.ofText text = Statement.ofInstructionText text := by
  simp only [isDirective, Bool.or_eq_false_iff, Option.isSome_eq_false_iff,
    Option.isNone_iff_eq_none] at plain
  simp only [Statement.ofText, plain]

theorem ofInstructionText_eq_ok {text : List Char} {statement : Statement}
    (made : Statement.ofInstructionText text = .ok statement) :
    ∃ m : Mnemonic, m.name.toList = upperAscii (splitWord text).1 ∧
      statement = .instruction m (commaFields (splitWord text).2) := by
  unfold Statement.ofInstructionText at made
  dsimp only at made
  split at made
  · rename_i m found
    exact ⟨m, toList_name_of_ofWord? found, (Except.ok.inj made).symm⟩
  · cases made

theorem keyword_eq_of_mnemonic_eq {op op' : Op} (same : op.mnemonic = op'.mnemonic) :
    op.keyword = op'.keyword := by
  rw [← Op.name_keyword, ← Op.name_keyword] at same
  have found := Mnemonic.ofWord?_name op.keyword
  rw [same, Mnemonic.ofWord?_name] at found
  exact (Option.some.inj found).symm

theorem writtenAs_unique {operands : List (List Char)} {i j : Instruction}
    (same : j.op.mnemonic = i.op.mnemonic) (hi : WrittenAs labels operands i)
    (hj : WrittenAs labels operands j) : j = i := by
  have made := instruction_of_writtenAs hj
  rw [keyword_eq_of_mnemonic_eq same, instruction_of_writtenAs hi] at made
  exact (Except.ok.inj made).symm

/-- In a program that assembles, a line with a mnemonic other than `DW` emits one word. Its operands
spell just one instruction of that mnemonic, each of them in the range of its field, and the word is
read as that instruction, with the three exceptions that `reread` names. -/
theorem instruction_line_decodes [Heap] {source : List Char} {base : Int} {program : Program}
    {line : SourceLine} (assembled : assemble source base = .ok program)
    (mem : line ∈ sourceLines source) (noLabel : labelName? line.text = none)
    (noDirective : isDirective line.text = false)
    (noWord : upperAscii (splitWord line.text).1 ≠ "DW".toList) :
    ∃ (w : UInt16) (i : Instruction),
      program.emitted (· = line.number) = wordBytes w ∧ decode w = i.reread ∧
      i.op.mnemonic.toList = upperAscii (splitWord line.text).1 ∧
      WrittenAs program.labels (commaFields (splitWord line.text).2) i ∧
      ∀ j : Instruction, j.op.mnemonic = i.op.mnemonic →
        WrittenAs program.labels (commaFields (splitWord line.text).2) j → j = i := by
  obtain ⟨statement, address, size, content, made, own, emitted⟩ :=
    emitted_of_statement assembled mem noLabel
  rw [ofText_of_not_isDirective noDirective] at made
  obtain ⟨m, spelled, rfl⟩ := ofInstructionText_eq_ok made
  rcases content_eq_ok.mp own with ⟨⟨⟩, -⟩ | ⟨-, bytes, encoded, -, rfl⟩
  obtain ⟨i, read, rfl⟩ := map_eq_ok.mp encoded
  obtain ⟨rfl, written⟩ := writtenAs_of_instruction read
  rw [Op.name_keyword] at spelled
  have known : i.op ≠ .unknown := by
    intro unknown
    rw [unknown] at spelled
    exact noWord spelled.symm
  exact ⟨i.encode, i, emitted, decode_encode known, spelled, written,
    fun j same => writtenAs_unique same written⟩

/-- The load of a negative byte, behind a label. -/
def negativeLoad : List Char := "ones:\n  Ld v2, -1 ; all bits".toList

def negativeLoadProgram : Program where
  labels := #[("ones".toList, 0x200)]
  pieces := [⟨⟨⟨2, "Ld v2, -1".toList⟩, 0x200, .instruction .ld ["v2".toList, "-1".toList], 2⟩,
    .bytes [0x62, 0xFF]⟩]

theorem instruction_line_decodes_negative :
    @assemble .unlimited negativeLoad 0x200 = .ok negativeLoadProgram ∧
    ⟨2, "Ld v2, -1".toList⟩ ∈ sourceLines negativeLoad ∧
    ∃ (w : UInt16) (i : Instruction),
      negativeLoadProgram.emitted (· = 2) = wordBytes w ∧ decode w = i.reread ∧
      i.op.mnemonic.toList = "LD".toList ∧
      WrittenAs negativeLoadProgram.labels ["v2".toList, "-1".toList] i ∧
      ∀ j : Instruction, j.op.mnemonic = i.op.mnemonic →
        WrittenAs negativeLoadProgram.labels ["v2".toList, "-1".toList] j → j = i :=
  let _ : Heap := .unlimited
  have assembled : assemble negativeLoad 0x200 = .ok negativeLoadProgram := rfl
  have mem : ⟨2, "Ld v2, -1".toList⟩ ∈ sourceLines negativeLoad := by decide
  ⟨assembled, mem,
    instruction_line_decodes assembled mem (by decide) (by decide) (by decide)⟩

end ChipEight.Assembly
