import ChipEight.Disassembly
import ChipEight.Memory
import ChipEight.Proofs.Except

/-!
# Stretches of stored bytes

A position inside the bytes designates the byte that is there. `splice` puts other bytes in the
place of a stretch, and then there may be more or fewer of them than before; stretches of one
length, one after the other, make up the whole. An instruction that is read inside stored bytes is
that of the bytes which are there.
-/

namespace ChipEight

theorem position_natCast {size i : Nat} (h : i < size) (fits : (i : Int) < wordBound) :
    position size i = .ok ⟨i, h⟩ := by
  have inside : 0 ≤ (i : Int) ∧ (i : Int) < size := by omega
  have not_negative : ¬(i : Int) < 0 := by omega
  have above : -wordBound ≤ (i : Int) := by unfold wordBound; omega
  unfold position fitsWord
  simp [fits, above, inside, not_negative]

variable {α : Type}

/-- The bytes with those from position `start` up to `stop` replaced by `new`, however many these
are. A position past the end counts as the end. -/
def splice (stored : List α) (start stop : Nat) (new : List α) : List α :=
  stored.take start ++ new ++ stored.drop (max start stop)

theorem splice_all (stored new : List α) : splice stored 0 stored.length new = new := by
  unfold splice
  rw [List.take_zero, List.nil_append, Nat.zero_max, List.drop_length, List.append_nil]

/-- The first `n` stretches of `width` bytes make up the first `n * width` bytes. -/
theorem flatMap_extract (stored : List α) (width n : Nat) :
    ((List.range n).flatMap fun j => stored.extract (j * width) ((j + 1) * width)) =
      stored.take (n * width) := by
  induction n with
  | zero => rw [Nat.zero_mul, List.take_zero, List.range_zero, List.flatMap_nil]
  | succ n ih =>
    have next : (n + 1) * width - n * width = width := by
      rw [Nat.succ_mul, Nat.add_sub_cancel_left]
    rw [List.range_succ, List.flatMap_append, ih, List.flatMap_singleton,
      List.extract_eq_take_drop, next, Nat.succ_mul, List.take_add]

/-! ### Stored instructions -/

namespace Disassembly

theorem byteAt_natCast {bytes : Array UInt8} {i : Nat} (h : i < bytes.size)
    (fits : (i : Int) < wordBound) : byteAt bytes i = .ok bytes[i] := by
  rw [byteAt, position_natCast h fits]
  rfl

theorem instructionAt_natCast {bytes : Array UInt8} {i : Nat} (h : i + 1 < bytes.size)
    (fits : ((i + 1 : Nat) : Int) < wordBound) :
    instructionAt bytes i (i + 1 : Nat) = .ok (decodeBytes bytes[i] bytes[i + 1]) := by
  unfold instructionAt
  rw [byteAt_natCast (by omega) (by omega), byteAt_natCast h fits]
  rfl

/-! ### The bytes of a machine -/

theorem byteAt_memory (memory : Memory) {a : Nat} (inside : a < 4096) :
    byteAt memory.toArray a = .ok memory[a] := by
  have stored : a < memory.toArray.size := by rwa [Vector.size_toArray]
  rw [byteAt_natCast stored (by unfold wordBound; omega), Vector.getElem_toArray]

theorem textAt_memory (memory : Memory) {a : Nat} (inside : a + 1 < 4096) :
    textAt memory.toArray a = .ok (decodeBytes memory[a] memory[a + 1]).text := by
  have first : (a : Int) % 4096 = a := by omega
  have second : ((a : Int) + 1) % 4096 = (a + 1 : Nat) := by omega
  rw [textAt, instructionAt, first, second, byteAt_memory memory (by omega),
    byteAt_memory memory inside]
  rfl

end Disassembly

end ChipEight
