import ChipEight.Memory

/-!
# Reading memory

The byte at an address, what it is once a program has been loaded, and what a block of bytes makes
of it. Zeros everywhere and then the glyphs give the memory at power-on, and whoever leaves the
bytes below the program space alone leaves the glyphs alone.
-/

namespace ChipEight.Memory

theorem read_natCast (memory : Memory) (a : Nat) : memory.read a = memory[a % 4096] := by
  have same : (wrapAddress a).val = a % 4096 := by
    show ((a : Int) % 4096).toNat = a % 4096
    omega
  simp [read, same]

theorem read_of_lt (memory : Memory) {a : Nat} (inside : a < 4096) :
    memory.read a = memory[a] := by
  rw [read_natCast]
  simp only [Nat.mod_eq_of_lt inside]

theorem readBytes_natCast (memory : Memory) (a n : Nat) :
    memory.readBytes a n = (List.range n).map fun k => memory[(a + k) % 4096] := by
  unfold readBytes
  apply List.map_congr_left
  intro k _
  rw [← Int.natCast_add, read_natCast]

theorem getElem_load (memory : Memory) (image : Array UInt8) {a : Nat} (inside : a < 4096) :
    (memory.load image)[a] =
      if a < programStart then memory[a] else image.getD (a - programStart) 0 :=
  Vector.getElem_ofFn inside

theorem read_load (memory : Memory) (image : Array UInt8) {a : Nat} (program : 0x200 ≤ a)
    (inside : a < 4096) : (memory.load image).read a = image.getD (a - 0x200) 0 := by
  have above : ¬a < programStart := Nat.not_lt.mpr program
  rw [read_of_lt _ inside, getElem_load, if_neg above]
  rfl

theorem read_load_of_lt (memory : Memory) (image : Array UInt8) {a : Nat}
    (low : a < programStart) : (memory.load image).read a = memory.read a := by
  have inside : a < 4096 := Nat.lt_trans low (by decide)
  rw [read_of_lt _ inside, read_of_lt _ inside, getElem_load, if_pos low]

/-! ### Glyphs -/

theorem read_initial_glyph {k : Nat} (inside : k < glyphs.size) :
    initial.read (glyphStart + k : Nat) = glyphs.getD k 0 := by
  have size : glyphs.size = 80 := rfl
  have start : glyphStart = 80 := rfl
  have glyph : ¬glyphStart + k < glyphStart := by omega
  rw [read_of_lt _ (by omega), initial, Vector.getElem_ofFn, if_neg glyph, Nat.add_sub_cancel_left]

theorem readBytes_glyphs {memory : Memory}
    (low : ∀ a : Nat, a < programStart → memory.read a = initial.read a) :
    memory.readBytes glyphStart glyphs.size = glyphs.toList := by
  have size : glyphs.size = 80 := rfl
  have start : glyphStart = 80 := rfl
  have program : programStart = 512 := rfl
  have bytes : memory.readBytes glyphStart glyphs.size =
      (List.range glyphs.size).map fun k => glyphs.getD k 0 := by
    apply List.map_congr_left
    intro k inside
    rw [List.mem_range] at inside
    rw [← Int.natCast_add, low (glyphStart + k) (by omega), read_initial_glyph inside]
  rw [bytes]
  decide

/-! ### Blocks of bytes -/

theorem val_wrapAddress (a : Int) : ((wrapAddress a).val : Int) = a % 4096 := by
  show (((a % 4096).toNat : Nat) : Int) = a % 4096
  omega

/-- An address at which no byte of a block falls keeps its byte. -/
theorem getElem_writeBytes_of_missed (memory : Memory) (bytes : List UInt8) {a : Int} {p : Nat}
    (inside : p < 4096) (missed : ∀ k < bytes.length, (a + (k : Nat)) % 4096 ≠ p) :
    (memory.writeBytes a bytes)[p] = memory[p] := by
  induction bytes generalizing memory a with
  | nil => rfl
  | cons byte bytes ih =>
    have first : (wrapAddress a).val ≠ p := by
      have head := missed 0 (Nat.succ_pos _)
      rw [Int.natCast_zero, Int.add_zero, ← val_wrapAddress] at head
      exact fun same => head (congrArg Nat.cast same)
    have others : ∀ k < bytes.length, (a + 1 + (k : Nat)) % 4096 ≠ p := by
      intro k short
      have later := missed (k + 1) (Nat.succ_lt_succ short)
      rwa [Int.natCast_succ, Int.add_comm (k : Int), ← Int.add_assoc] at later
    rw [writeBytes, ih _ others]
    exact Vector.getElem_set_ne _ _ first

/-- An address at which bytes of a block fall holds the last of them. -/
theorem getElem_writeBytes_of_last (memory : Memory) (bytes : List UInt8) {a : Int} {p k : Nat}
    (inside : p < 4096) (short : k < bytes.length) (here : (a + k) % 4096 = p)
    (last : ∀ j < bytes.length, k < j → (a + (j : Nat)) % 4096 ≠ p) :
    (memory.writeBytes a bytes)[p] = bytes[k] := by
  induction bytes generalizing memory a k with
  | nil => exact absurd short (Nat.not_lt_zero k)
  | cons byte bytes ih =>
    have later (j : Nat) : a + 1 + j = a + (j + 1 : Nat) := by omega
    rw [List.length_cons] at short last
    rw [writeBytes]
    cases k with
    | zero =>
      -- The first byte is the last to fall on `p`, so the rest of the block misses it.
      have others : ∀ j < bytes.length, (a + 1 + (j : Nat)) % 4096 ≠ p := by
        intro j inside
        rw [later]
        exact last (j + 1) (Nat.succ_lt_succ inside) (Nat.succ_pos j)
      have place : (wrapAddress a).val = p := by
        rw [Int.natCast_zero, Int.add_zero, ← val_wrapAddress] at here
        exact Int.ofNat_inj.mp here
      rw [getElem_writeBytes_of_missed _ _ inside others]
      subst place
      exact Vector.getElem_set_self _
    | succ k =>
      apply ih _ (Nat.lt_of_succ_lt_succ short)
      · rw [later]
        exact here
      · intro j inside after
        rw [later]
        exact last (j + 1) (Nat.succ_lt_succ inside) (Nat.succ_lt_succ after)

theorem getElem_writeBytes (memory : Memory) (bytes : List UInt8) {a i : Nat}
    (fits : a + bytes.length ≤ 4096) (inside : i < 4096) :
    (memory.writeBytes a bytes)[i] =
      if a ≤ i ∧ i < a + bytes.length then bytes.getD (i - a) 0 else memory[i] := by
  by_cases block : a ≤ i ∧ i < a + bytes.length
  · have short : i - a < bytes.length := by omega
    rw [if_pos block, List.getD_eq_getElem?_getD, List.getElem?_eq_getElem short, Option.getD_some]
    apply getElem_writeBytes_of_last _ _ inside short
    · omega
    · intro j _ _
      omega
  · rw [if_neg block]
    apply getElem_writeBytes_of_missed _ _ inside
    intro k _
    omega

theorem readBytes_writeBytes (memory : Memory) (a : Int) {bytes : List UInt8}
    (fits : bytes.length ≤ 4096) :
    (memory.writeBytes a bytes).readBytes a bytes.length = bytes := by
  apply List.ext_getElem
  · rw [readBytes, List.length_map, List.length_range]
  · intro k _ short
    have place := val_wrapAddress (a + k)
    simp only [readBytes, List.getElem_map, List.getElem_range]
    apply getElem_writeBytes_of_last _ _ (wrapAddress (a + k)).isLt short
    · exact place.symm
    · intro j _ _
      omega

/-- Zeros everywhere and then the glyphs are the memory at power-on, whatever there was before. -/
theorem writeBytes_glyphs (memory : Memory) :
    (memory.writeBytes 0 (List.replicate 4096 0)).writeBytes glyphStart glyphs.toList =
      initial := by
  apply Vector.ext
  intro i inside
  have zeros : (List.replicate 4096 (0 : UInt8)).length = 4096 := List.length_replicate
  have wiped : (memory.writeBytes 0 (List.replicate 4096 0))[i] = 0 := by
    have read := getElem_writeBytes memory (List.replicate 4096 0) (a := 0) (by omega) inside
    rw [zeros, if_pos (by omega), List.getD_eq_getElem?_getD,
      List.getElem?_replicate_of_lt (by omega)] at read
    exact read
  have size : glyphs.toList.length = 80 := rfl
  have read := getElem_writeBytes (memory.writeBytes 0 (List.replicate 4096 0)) glyphs.toList
    (a := glyphStart) (by rw [size]; decide) inside
  rw [size, wiped] at read
  refine read.trans ?_
  rw [initial, Vector.getElem_ofFn]
  by_cases low : i < glyphStart
  · rw [if_pos low, if_neg (by omega)]
  · rw [if_neg low]
    by_cases glyph : i < glyphStart + 80
    · rw [if_pos ⟨Nat.le_of_not_lt low, glyph⟩, List.getD_eq_getElem?_getD,
        Array.getD_eq_getD_getElem?, Array.getElem?_toList]
    · have past : glyphs.size ≤ i - glyphStart := by
        show 80 ≤ i - glyphStart
        omega
      rw [if_neg (by omega), Array.getD_eq_getD_getElem?, Array.getElem?_eq_none past]
      rfl

end ChipEight.Memory
