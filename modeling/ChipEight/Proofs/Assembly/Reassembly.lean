import ChipEight.Proofs.Assembly.Emission
import ChipEight.Proofs.Assembly.Line

/-!
# Assembling undoes disassembling

The text of a program, a line for each instruction, goes through both passes row by row: each line
makes one row of two bytes, and each row yields the word of its instruction.
-/

namespace ChipEight.Assembly

open Text

/-! ### Both passes over the lines of a program -/

/-- The lines of a program, the first one numbered `n`. -/
def programLines : Nat → List Instruction → List SourceLine
  | _, [] => []
  | n, i :: is => ⟨n, i.text.toList⟩ :: programLines (n + 1) is

/-- The rows of a program whose first line is numbered `n` and stands at `a`. -/
def programRows : Nat → Int → List Instruction → List Row
  | _, _, [] => []
  | n, a, i :: is =>
    ⟨⟨n, i.text.toList⟩, a, .instruction i.op.keyword (i.operandTexts.map String.toList), 2⟩ ::
      programRows (n + 1) (a + 2) is

/-- The text of a program, a line for each instruction. -/
def programText (is : List Instruction) : List Char :=
  ("\n".intercalate (is.map Instruction.text)).toList

theorem numberedLines_text (n : Nat) (is : List Instruction) :
    numberedLines n (is.map fun i => i.text.toList) = programLines n is := by
  induction is generalizing n with
  | nil => rfl
  | cons i is ih =>
    have plain := isPlainLine_text i
    have nonempty : i.text.toList.isEmpty = false := by
      obtain ⟨a, first, _⟩ := plain.first
      obtain ⟨rest, same⟩ := List.head?_eq_some_iff.mp first
      rw [same]
      rfl
    rw [programLines, ← ih]
    simp [numberedLines, plain.content_eq, nonempty]

theorem sourceLines_programText (is : List Instruction) :
    sourceLines (programText is) = programLines 1 is := by
  cases is with
  | nil => rfl
  | cons i is =>
    have noBreak : ∀ l ∈ ((i :: is).map Instruction.text).map String.toList, '\n' ∉ l := by
      intro l hl
      rw [List.map_map] at hl
      obtain ⟨j, _, rfl⟩ := List.mem_map.mp hl
      exact (isPlainLine_text j).notMem (by decide) (by decide) (by decide)
    have newline : "\n".toList = ['\n'] := rfl
    rw [sourceLines, programText, String.toList_intercalate, newline,
      List.splitOn_intercalate _ noBreak (by simp), List.map_map]
    exact numberedLines_text 1 (i :: is)

theorem addLine_text (layout : Layout) (n : Nat) (i : Instruction) :
    layout.addLine ⟨n, i.text.toList⟩ = .ok { layout with
      rows := layout.rows ++ (programRows n layout.next [i]).toArray
      next := layout.next + 2 } := by
  simp only [Layout.addLine, (isPlainLine_text i).labelName?_eq, Layout.addStatement, ofText_text,
    Statement.size, ok_bind, pure_eq_ok, mapError_ok, programRows]
  simp

theorem foldlM_addLine_text (is : List Instruction) (n : Nat) (layout : Layout) :
    (programLines n is).foldlM Layout.addLine layout = .ok { layout with
      rows := layout.rows ++ (programRows n layout.next is).toArray
      next := layout.next + 2 * is.length } := by
  induction is generalizing n layout with
  | nil => simp [programLines, programRows]
  | cons i is ih =>
    rw [programLines, List.foldlM_cons, addLine_text, ok_bind, ih]
    simp [programRows]
    omega

/-- The bytes of a program, two for each instruction. -/
def programBytes (is : List Instruction) : List UInt8 := is.flatMap fun i => wordBytes i.encode

theorem mapM_piece_programRows [Heap] (base : Int) (is : List Instruction) (n : Nat) (a : Int) :
    ∃ pieces, (programRows n a is).mapM (Row.piece base #[]) = .ok pieces ∧
      pieces.flatMap (fun piece => piece.content.toList) = programBytes is := by
  induction is generalizing n a with
  | nil => exact ⟨[], rfl, rfl⟩
  | cons i is ih =>
    obtain ⟨pieces, rest, bytes⟩ := ih (n + 1) (a + 2)
    have read : i.op.keyword.instruction #[] (i.operandTexts.map String.toList) = .ok i :=
      instruction_operandTexts i fun _ _ => rfl
    refine ⟨⟨_, .bytes (wordBytes i.encode)⟩ :: pieces,
      mapM_cons_eq_ok.mpr ⟨_, pieces, piece_eq_ok.mpr ⟨rfl, ?_⟩, rest, rfl⟩, ?_⟩
    · exact content_eq_ok.mpr (.inr ⟨rfl, _, map_eq_ok.mpr ⟨i, read, rfl⟩, rfl, rfl⟩)
    · rw [List.flatMap_cons, bytes]
      rfl

theorem getLast?_programRows (i : Instruction) (is : List Instruction) (n : Nat) (a : Int) :
    ∃ row, (programRows n a (i :: is)).getLast? = some row ∧ row.line.number = n + is.length := by
  induction is generalizing i n a with
  | nil => exact ⟨_, rfl, rfl⟩
  | cons j is ih =>
    obtain ⟨row, last, number⟩ := ih j (n + 1) (a + 2)
    refine ⟨row, ?_, by simp [number]; omega⟩
    rw [programRows, List.getLast?_cons, last]
    rfl

/-- The text of a program assembles to its bytes wherever there is room for them. -/
theorem assemble_programText [Heap] (is : List Instruction) (base : Int)
    (room : base + 2 * is.length ≤ memoryEnd) :
    ∃ program, assemble (programText is) base = .ok program ∧ program.bytes = programBytes is := by
  obtain ⟨pieces, encoded, bytes⟩ := mapM_piece_programRows base is 1 base
  refine ⟨⟨#[], pieces⟩, ?_, bytes⟩
  have laid := foldlM_addLine_text is 1 ⟨#[], #[], base⟩
  simp only [assemble, Layout.ofLines, sourceLines_programText, laid, ok_bind, Array.empty_append,
    encoded, pure_eq_ok]
  rw [if_neg (by omega)]

/-- Without that room the last line is to blame. -/
theorem assemble_programText_error [Heap] (is : List Instruction) (base : Int) (nonempty : is ≠ [])
    (noRoom : memoryEnd < base + 2 * is.length) :
    assemble (programText is) base =
      .error (.line is.length (.endsPastMemory (base + 2 * is.length))) := by
  obtain ⟨pieces, encoded, _⟩ := mapM_piece_programRows base is 1 base
  have laid := foldlM_addLine_text is 1 ⟨#[], #[], base⟩
  simp only [assemble, Layout.ofLines, sourceLines_programText, laid, ok_bind, Array.empty_append,
    encoded, pure_eq_ok]
  rw [if_pos noRoom]
  obtain ⟨i, is, rfl⟩ := List.exists_cons_of_ne_nil nonempty
  obtain ⟨row, last, number⟩ := getLast?_programRows i is 1 base
  have blamed : row.line.number = (i :: is).length := by simp [number, Nat.add_comm]
  simp only [pastMemory, List.back?_toArray, last, blamed]
  rfl

/-! ### Words -/

/-- The words `ws` as the disassembler writes them, a line for each. -/
def disassembly (ws : List UInt16) : String :=
  "\n".intercalate (ws.map fun w => (decode w).text)

/-- The bytes of words, the more significant byte of each first. -/
def bigEndian (ws : List UInt16) : List UInt8 :=
  ws.flatMap fun w => [UInt8.ofNat (w.toNat / 256), UInt8.ofNat (w.toNat % 256)]

theorem programText_decode (ws : List UInt16) :
    programText (ws.map decode) = (disassembly ws).toList := by
  rw [programText, disassembly, List.map_map]
  rfl

theorem programBytes_decode (ws : List UInt16) : programBytes (ws.map decode) = bigEndian ws := by
  have word : ∀ w : UInt16,
      wordBytes w = [UInt8.ofNat (w.toNat / 256), UInt8.ofNat (w.toNat % 256)] := by
    intro w
    have low : w.toUInt8 = UInt8.ofNat (w.toNat % 256) := UInt8.toNat_inj.mp (by simp)
    rw [wordBytes, firstByte, secondByte, low]
  rw [programBytes, List.flatMap_map, bigEndian]
  simp only [encode_decode, word]

/-- Assembling undoes disassembling, on any number of words and up to the end of memory; past it,
the last line is to blame. -/
theorem assemble_disassembly [Heap] (ws : List UInt16) (base : Int) :
    (base + 2 * ws.length ≤ memoryEnd →
      (assemble (disassembly ws).toList base).map Program.image = .ok (bigEndian ws).toArray) ∧
    (ws ≠ [] → memoryEnd < base + 2 * ws.length →
      assemble (disassembly ws).toList base =
        .error (.line ws.length (.endsPastMemory (base + 2 * ws.length)))) := by
  constructor
  · intro room
    obtain ⟨program, assembled, bytes⟩ :=
      assemble_programText (ws.map decode) base (by simpa using room)
    rw [← programText_decode, assembled, map_ok, Program.image, bytes, programBytes_decode]
  · intro nonempty noRoom
    have blamed := assemble_programText_error (ws.map decode) base (by simpa using nonempty)
      (by simpa using noRoom)
    rw [← programText_decode, blamed, List.length_map]

/-- A shift that shows its second register, and a word that is no instruction, in the last four
bytes of memory and two bytes further up. -/
theorem assemble_disassembly_at_end :
    ((0xFFC : Int) + 2 * [0x8126, 0xE19E].length ≤ memoryEnd ∧
      (@assemble .unlimited (disassembly [0x8126, 0xE19E]).toList 0xFFC).map Program.image =
        .ok #[0x81, 0x26, 0xE1, 0x9E]) ∧
    ([0x8126, 0xE19E] ≠ ([] : List UInt16) ∧
      memoryEnd < (0xFFE : Int) + 2 * [0x8126, 0xE19E].length ∧
      @assemble .unlimited (disassembly [0x8126, 0xE19E]).toList 0xFFE =
        .error (.line 2 (.endsPastMemory 0x1002))) :=
  let _ : Heap := .unlimited
  ⟨⟨by decide, (assemble_disassembly [0x8126, 0xE19E] 0xFFC).1 (by decide)⟩,
    by decide, by decide, (assemble_disassembly [0x8126, 0xE19E] 0xFFE).2 (by decide) (by decide)⟩

end ChipEight.Assembly
