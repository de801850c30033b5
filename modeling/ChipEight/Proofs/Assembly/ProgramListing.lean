import ChipEight.Proofs.Assembly.Reassembly
import ChipEight.Proofs.Storage
import ChipEight.Proofs.Memory

/-!
# Assembling the listing of a program

The listing of the program space ends at the first word that ends a program, or with memory. Its
texts, a line for each row, assemble to the bytes that were listed (`listing_reassembles`).
-/

namespace ChipEight

/-! ### Words and their bytes -/

theorem toNat_wordOfBytes (b₀ b₁ : UInt8) :
    (wordOfBytes b₀ b₁).toNat = b₀.toNat * 256 + b₁.toNat := by
  have := b₀.toNat_lt
  have := b₁.toNat_lt
  rw [wordOfBytes, UInt16.toNat_ofNat']
  omega

theorem firstByte_wordOfBytes (b₀ b₁ : UInt8) : firstByte (wordOfBytes b₀ b₁) = b₀ := by
  have := b₀.toNat_lt
  have := b₁.toNat_lt
  apply UInt8.toNat_inj.mp
  rw [firstByte, toNat_wordOfBytes, UInt8.toNat_ofNat']
  omega

theorem secondByte_wordOfBytes (b₀ b₁ : UInt8) : secondByte (wordOfBytes b₀ b₁) = b₁ := by
  have := b₁.toNat_lt
  apply UInt8.toNat_inj.mp
  rw [secondByte, UInt16.toNat_toUInt8, toNat_wordOfBytes]
  omega

theorem wordBytes_encode_decodeBytes (b₀ b₁ : UInt8) :
    Assembly.wordBytes (decodeBytes b₀ b₁).encode = [b₀, b₁] := by
  rw [decodeBytes, encode_decode, Assembly.wordBytes, firstByte_wordOfBytes, secondByte_wordOfBytes]

/-- Only the word zero ends a program. -/
theorem decodeBytes_eq_finish_iff {b₀ b₁ : UInt8} :
    decodeBytes b₀ b₁ = .finish ↔ b₀ = 0 ∧ b₁ = 0 := by
  constructor
  · intro finish
    have bytes := wordBytes_encode_decodeBytes b₀ b₁
    have zeros : Assembly.wordBytes (Instruction.finish).encode = [0, 0] := rfl
    rw [finish, zeros, List.cons.injEq, List.cons.injEq] at bytes
    exact ⟨bytes.1.symm, bytes.2.1.symm⟩
  · rintro ⟨rfl, rfl⟩
    rfl

namespace Disassembly

variable (memory : Memory)

/-! ### Rows -/

/-- The word of memory at an address. -/
def wordRow (a : Nat) : Row := ⟨a, memory.read a, memory.read (a + 1 : Nat)⟩

theorem rowAt_memory {a : Nat} (inside : a + 1 < 4096) :
    rowAt memory.toArray a = .ok (wordRow memory a) := by
  have next : ((a : Int) + 1) = ((a + 1 : Nat) : Int) := rfl
  rw [rowAt, byteAt_memory memory (by omega), next, byteAt_memory memory inside, wordRow,
    memory.read_of_lt inside, memory.read_of_lt (a := a) (by omega)]
  rfl

theorem textAt_wordRow {a : Nat} (inside : a + 1 < 4096) :
    textAt memory.toArray a = .ok (wordRow memory a).instruction.text := by
  rw [textAt_memory memory inside, ← memory.read_of_lt inside,
    ← memory.read_of_lt (a := a) (by omega)]
  rfl

/-- The rows of `n + 1` words from `a` on, and which of them is the last. -/
theorem exists_rowsFrom {n a : Nat} (inside : a + 2 * n + 1 < 4096) :
    ∃ k ≤ n, rowsFrom memory.toArray (n + 1) a =
        .ok ((List.range (k + 1)).map fun j => wordRow memory (a + 2 * j)) ∧
      (∀ j < k, (wordRow memory (a + 2 * j)).instruction ≠ .finish) ∧
      ((wordRow memory (a + 2 * k)).instruction = .finish ∨ k = n) := by
  induction n generalizing a with
  | zero =>
    refine ⟨0, Nat.le_refl 0, ?_, fun j inside => by omega, .inr rfl⟩
    rw [rowsFrom, rowAt_memory memory inside]
    show (if _ then _ else _) = _
    split <;> rfl
  | succ n ih =>
    rw [rowsFrom, rowAt_memory memory (by omega), ok_bind]
    by_cases finish : (wordRow memory a).instruction = .finish
    · rw [if_pos finish]
      exact ⟨0, Nat.zero_le _, rfl, fun j inside => by omega, .inl finish⟩
    · rw [if_neg finish]
      have next : ((a : Int) + 2) = ((a + 2 : Nat) : Int) := rfl
      -- The rows that are left are counted from the next word on.
      obtain ⟨k, within, rows, going, last⟩ := ih (a := a + 2) (by omega)
      have shift : ∀ j, a + 2 + 2 * j = a + 2 * (j + 1) := by omega
      simp only [shift] at rows going last
      rw [next, rows]
      refine ⟨k + 1, by omega, ?_, ?_, ?_⟩
      · have cut : List.range (k + 1 + 1) = 0 :: (List.range (k + 1)).map Nat.succ :=
          List.range_succ_eq_map
        rw [cut, List.map_cons, List.map_map]
        rfl
      · intro j inside
        cases j with
        | zero => exact finish
        | succ j => exact going j (by omega)
      · exact last.imp_right (congrArg (· + 1))

/-! ### Bytes -/

theorem take_two_drop {a : Nat} (inside : a + 1 < 4096) :
    (memory.toList.drop a).take 2 = [memory.read a, memory.read (a + 1 : Nat)] := by
  have length : memory.toList.length = 4096 := memory.length_toList
  rw [memory.read_of_lt inside, memory.read_of_lt (a := a) (by omega),
    List.drop_eq_getElem_cons (by omega), List.drop_eq_getElem_cons (by omega)]
  rfl

theorem flatMap_wordRow {a k : Nat} (inside : a + 2 * k ≤ 4096) :
    ((List.range k).flatMap fun j =>
      [(wordRow memory (a + 2 * j)).first, (wordRow memory (a + 2 * j)).second]) =
      (memory.toList.drop a).take (2 * k) := by
  induction k with
  | zero => rfl
  | succ k ih =>
    rw [List.range_succ, List.flatMap_append, ih (by omega), Nat.mul_succ, List.take_add,
      List.drop_drop, take_two_drop memory (by omega)]
    rfl

theorem programBytes_rows (rows : List Row) :
    Assembly.programBytes (rows.map Row.instruction) =
      rows.flatMap fun row => [row.first, row.second] := by
  rw [Assembly.programBytes, List.flatMap_map]
  simp only [Row.instruction, wordBytes_encode_decodeBytes]

/-- The texts of rows, a line for each. -/
def listingText (rows : List Row) : String :=
  "\n".intercalate (rows.map fun row => row.instruction.text)

theorem programText_rows (rows : List Row) :
    Assembly.programText (rows.map Row.instruction) = (listingText rows).toList := by
  rw [Assembly.programText, listingText, List.map_map]
  rfl

/-- The texts of consecutive words assemble, at the address of the first one, to their bytes. -/
theorem image_listingText [Heap] {a k : Nat} (inside : a + 2 * k ≤ 4096) :
    (Assembly.assemble
        (listingText ((List.range k).map fun j => wordRow memory (a + 2 * j))).toList a).map
      Assembly.Program.image = .ok (memory.toArray.extract a (a + 2 * k)) := by
  have room : (a : Int) + 2 * (((List.range k).map fun j => wordRow memory (a + 2 * j)).map
      Row.instruction).length ≤ Assembly.memoryEnd := by
    rw [List.length_map, List.length_map, List.length_range, Assembly.memoryEnd]
    omega
  obtain ⟨program, assembled, bytes⟩ := Assembly.assemble_programText _ _ room
  rw [programBytes_rows, List.flatMap_map, flatMap_wordRow memory inside] at bytes
  rw [← programText_rows, assembled, map_ok, Assembly.Program.image, bytes]
  apply congrArg Except.ok
  rw [← Array.toList_inj, Array.toList_extract, List.extract, Nat.add_sub_cancel_left]
  rfl

/-- The listing of the program space has a row for each word, with the bytes that are stored there
and the text that is shown for its address, up to the first word that is zero or else to the last
one of memory. Its texts assemble to all the bytes that are listed. -/
theorem listing_reassembles [Heap] (memory : Memory) :
    let row (k : Nat) : Row := wordRow memory (0x200 + 2 * k)
    let zero (k : Nat) : Prop := (row k).first = 0 ∧ (row k).second = 0
    ∃ n, let rows := (List.range (n + 1)).map row
      rowsBetween memory.toArray 0x200 lastWord = .ok rows ∧
      (∀ row ∈ rows, textAt memory.toArray row.address = .ok row.instruction.text) ∧
      (∀ k < n, ¬zero k) ∧
      0x200 + 2 * n ≤ 0xFFE ∧ (zero n ∨ 0x200 + 2 * n = 0xFFE) ∧
      Assembly.assembleImage (listingText rows).toList =
        .ok (memory.toArray.extract 0x200 (0x200 + 2 * n + 2)) := by
  intro row zero
  have words : rowsBetween memory.toArray 0x200 lastWord =
    rowsFrom memory.toArray (1791 + 1) (0x200 : Nat) := rfl
  obtain ⟨n, within, listed, going, last⟩ :=
    exists_rowsFrom memory (n := 1791) (a := 0x200) (by decide)
  refine ⟨n, words.trans listed, ?_, ?_, by omega, ?_, ?_⟩
  · intro row mem
    obtain ⟨k, inside, rfl⟩ := List.mem_map.mp mem
    rw [List.mem_range] at inside
    exact textAt_wordRow memory (by omega)
  · intro k inside zero
    exact going k inside (decodeBytes_eq_finish_iff.mpr zero)
  · obtain finish | rfl := last
    · exact .inl (decodeBytes_eq_finish_iff.mp finish)
    · exact .inr rfl
  · exact image_listingText memory (a := 0x200) (k := n + 1) (by omega)

end Disassembly

end ChipEight
