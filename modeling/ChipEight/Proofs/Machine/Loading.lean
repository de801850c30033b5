import ChipEight.Machine.Basic
import ChipEight.Proofs.Memory
import ChipEight.Proofs.Storage

/-!
# Bytes put into memory

Loading replaces the program space as a whole (`toList_load`), and the same is done stretch by
stretch without a change in the number of bytes (`loadInPlace_eq`). Bytes written from an address on
fall on the addresses that follow it around the end of memory, the later over the earlier.
-/

namespace ChipEight

namespace Memory

/-- A load done in place: zeros for the program space, then the image over its beginning. Gives the
bytes afterwards and the number of bytes stored. -/
def loadInPlace (stored image : List UInt8) : List UInt8 × Nat :=
  let wiped := splice stored programStart stored.length (List.replicate programSpace 0)
  let count := min image.length programSpace
  (splice wiped programStart (programStart + count) (image.take count), count)

theorem length_take_programStart (memory : Memory) :
    (memory.toList.take programStart).length = programStart := by
  rw [List.length_take, Vector.length_toList]
  rfl

theorem getElem?_padded (image : Array UInt8) {k : Nat} (inside : k < programSpace) :
    (image.toList.take (storedSize image) ++
      List.replicate (programSpace - storedSize image) 0)[k]? = some (image.getD k 0) := by
  have size : storedSize image = min image.size programSpace := rfl
  have stored : (image.toList.take (storedSize image)).length = storedSize image := by
    rw [List.length_take, Array.length_toList]
    omega
  rw [List.getElem?_append, stored, Array.getD_eq_getD_getElem?]
  by_cases held : k < storedSize image
  · have inside : k < image.size := by omega
    rw [if_pos held, List.getElem?_take, if_pos held, Array.getElem?_toList,
      Array.getElem?_eq_getElem inside, Option.getD_some]
  · have room : k - storedSize image < programSpace - storedSize image := by omega
    have past : image.size ≤ k := by omega
    rw [if_neg held, List.getElem?_replicate_of_lt room, Array.getElem?_eq_none past,
      Option.getD_none]

theorem toList_load (memory : Memory) (image : Array UInt8) :
    (memory.load image).toList = memory.toList.take programStart ++
      (image.toList.take (storedSize image) ++
        List.replicate (programSpace - storedSize image) 0) := by
  have start : programStart = 512 := rfl
  have space : programSpace = 3584 := rfl
  have size : storedSize image = min image.size programSpace := rfl
  apply List.ext_getElem?
  intro i
  rw [List.getElem?_append, length_take_programStart, Vector.getElem?_toList]
  by_cases inside : i < 4096
  · rw [Vector.getElem?_eq_getElem inside, getElem_load]
    by_cases low : i < programStart
    · rw [if_pos low, if_pos low, List.getElem?_take, if_pos low, Vector.getElem?_toList,
        Vector.getElem?_eq_getElem inside]
    · rw [if_neg low, if_neg low, getElem?_padded image (by omega)]
  · have low : ¬i < programStart := by omega
    rw [if_neg low, Vector.getElem?_eq_none (by omega), List.getElem?_eq_none]
    simp only [List.length_append, List.length_take, List.length_replicate, Array.length_toList]
    omega

theorem loadInPlace_eq (memory : Memory) (image : Array UInt8) :
    loadInPlace memory.toList image.toList = ((memory.load image).toList, storedSize image) := by
  have low := length_take_programStart memory
  have size : storedSize image = min image.size programSpace := rfl
  have all : memory.toList.length = programStart + programSpace := Vector.length_toList
  have wiped : splice memory.toList programStart memory.toList.length
      (List.replicate programSpace 0) =
      memory.toList.take programStart ++ List.replicate programSpace 0 := by
    unfold splice
    rw [List.drop_eq_nil_of_le (by omega), List.append_nil]
  have put : splice (memory.toList.take programStart ++ List.replicate programSpace 0) programStart
      (programStart + storedSize image) (image.toList.take (storedSize image)) =
      (memory.load image).toList := by
    unfold splice
    rw [toList_load, Nat.max_eq_right (Nat.le_add_right _ _),
      List.take_append_of_le_length (by omega), List.take_take, Nat.min_self, List.drop_append, low,
      List.drop_eq_nil_of_le (by omega), Nat.add_sub_cancel_left, List.drop_replicate,
      List.nil_append, List.append_assoc]
  unfold loadInPlace
  dsimp only
  rw [wiped, Array.length_toList, ← size, put]

theorem load_load (memory : Memory) (image later : Array UInt8) :
    (memory.load image).load later = memory.load later := by
  apply Vector.ext
  intro i inside
  rw [getElem_load, getElem_load, getElem_load]
  by_cases low : i < programStart
  · rw [if_pos low, if_pos low, if_pos low]
  · rw [if_neg low, if_neg low]

end Memory

namespace Machine

/-- A load keeps the bytes below the program space, puts as many bytes of the image behind them as
there is room for and fills up with zeros, so a later load leaves nothing of it; bytes written from
any address on fall on the addresses that follow it, modulo the size of memory, and where several
fall on one address the last of them stays. Neither touches anything but memory. -/
theorem memory_after_load_and_write (m : Machine) :
    (∀ image : Array UInt8,
      let count := min image.size 0xE00
      let loaded := (m.load image).machine
      (m.load image).result = .ok count ∧
      loaded = { m with memory := loaded.memory } ∧
      loaded.memory.toList = m.memory.toList.take 0x200 ++
        (image.toList.take count ++ List.replicate (0xE00 - count) 0) ∧
      loaded.memory.toList.length = 4096 ∧
      Memory.loadInPlace m.memory.toList image.toList = (loaded.memory.toList, count) ∧
      ∀ later, (loaded.load later).machine = (m.load later).machine) ∧
    ∀ (a : Int) (bytes : List UInt8),
      let written := m.writeBytes a bytes
      written = { m with memory := written.memory } ∧
      (∀ p : Address, (∀ k < bytes.length, (a + (k : Nat)) % 4096 ≠ p) →
        written.memory[p] = m.memory[p]) ∧
      (∀ (p : Address) (k : Nat) (short : k < bytes.length), (a + k) % 4096 = p →
        (∀ j < bytes.length, k < j → (a + (j : Nat)) % 4096 ≠ p) → written.memory[p] = bytes[k]) ∧
      (bytes.length ≤ 4096 → written.memory.readBytes a bytes.length = bytes) := by
  constructor
  · intro image count loaded
    have after : loaded = { m with memory := m.memory.load image } := rfl
    refine ⟨rfl, rfl, m.memory.toList_load image, Vector.length_toList,
      m.memory.loadInPlace_eq image, ?_⟩
    intro later
    unfold load
    rw [after]
    dsimp only
    rw [Memory.load_load]
  · intro a bytes written
    refine ⟨rfl, ?_, ?_, m.memory.readBytes_writeBytes a⟩
    · intro p missed
      exact m.memory.getElem_writeBytes_of_missed bytes p.isLt missed
    · intro p k short here last
      exact m.memory.getElem_writeBytes_of_last bytes p.isLt short here last

/-- A block that comes around the end of memory is read back, and of one that comes around to its
own beginning the last byte stays there. -/
theorem memory_after_load_and_write_around_end :
    let m := powerOn 0 false
    let block : List UInt8 := [1, 2, 3, 4]
    let lap : List UInt8 := List.replicate 4096 7 ++ [9]
    (m.load #[0x12, 0x34]).result = .ok 2 ∧
    ((∀ k < block.length, (-2 + (k : Nat) : Int) % 4096 ≠ (2 : Address).val) ∧
      (m.writeBytes (-2) block).memory[(2 : Address)] = m.memory[(2 : Address)]) ∧
    (block.length ≤ 4096 ∧ (m.writeBytes (-2) block).memory.readBytes (-2) 4 = block) ∧
    ((0 + (4096 : Nat) : Int) % 4096 = (0 : Address).val ∧
      (∀ j < lap.length, 4096 < j → (0 + (j : Nat) : Int) % 4096 ≠ (0 : Address).val) ∧
      (m.writeBytes 0 lap).memory[(0 : Address)] = 9) := by
  intro m block lap
  obtain ⟨loads, writes⟩ := memory_after_load_and_write m
  obtain ⟨stored, -⟩ := loads #[0x12, 0x34]
  obtain ⟨-, missed, -, back⟩ := writes (-2) block
  obtain ⟨-, -, last, -⟩ := writes 0 lap
  have around : ∀ k < block.length, (-2 + (k : Nat) : Int) % 4096 ≠ (2 : Address).val := by decide
  have length : lap.length = 4097 := by
    rw [List.length_append, List.length_replicate, List.length_singleton]
  have none_behind : ∀ j < lap.length, 4096 < j →
      (0 + (j : Nat) : Int) % 4096 ≠ (0 : Address).val := by omega
  have nine : lap[4096] = 9 := by
    rw [List.getElem_append_right (Nat.le_of_eq List.length_replicate)]
    simp only [List.length_replicate, Nat.sub_self, List.getElem_cons_zero]
  refine ⟨stored, ⟨around, missed 2 around⟩, ⟨by decide, back (by decide)⟩, by decide, none_behind,
    ?_⟩
  exact (last 0 4096 (by omega) (by decide) none_behind).trans nine

end Machine

end ChipEight
