import ChipEight.Framebuffer.Basic

/-!
# The pixels under a sprite

Where a sprite wraps around, each of its pixels falls on the surface; and whether it does so no
change of the pixels changes.
-/

namespace ChipEight.Framebuffer

variable {width height : Int}

theorem number_bounds {x y : Int} (hx : 0 ≤ x) (hx' : x < width) (hy : 0 ≤ y) (hy' : y < height) :
    0 ≤ y * width + x ∧ y * width + x < height * width := by
  have row_start : 0 ≤ y * width := Int.mul_nonneg hy (by omega)
  have row_end : (y + 1) * width ≤ height * width :=
    Int.mul_le_mul_of_nonneg_right hy' (by omega)
  rw [Int.add_mul] at row_end
  omega

theorem offset_bounds {fb : Framebuffer width height} (wrap : fb.wrap = true) (hw : 0 < width)
    (hh : 0 < height) (x y : Int) : 0 ≤ fb.offset x y ∧ fb.offset x y < height * width := by
  have column := Int.fmod_eq_emod_of_nonneg x (Int.le_of_lt hw)
  have row := Int.fmod_eq_emod_of_nonneg y (Int.le_of_lt hh)
  rw [offset, if_pos wrap, column, row]
  exact number_bounds (Int.emod_nonneg x (by omega)) (Int.emod_lt_of_pos x hw)
    (Int.emod_nonneg y (by omega)) (Int.emod_lt_of_pos y hh)

theorem isSome_cell? {fb : Framebuffer width height} (wrap : fb.wrap = true) (hw : 0 < width)
    (hh : 0 < height) (x y : Int) : (fb.cell? x y).isSome := by
  obtain ⟨lower, upper⟩ := offset_bounds wrap hw hh x y
  have inside : 0 ≤ fb.offset x y ∧ fb.offset x y < area width height := by
    refine ⟨lower, ?_⟩
    rw [area, Int.mul_comm]
    omega
  unfold cell?
  rw [dif_pos inside]
  rfl

/-! ### Edges -/

theorem wrap_flip (state : Framebuffer width height × Bool)
    (i? : Option (Fin (area width height))) : (flip state i?).1.wrap = state.1.wrap := by
  cases i? <;> rfl

theorem wrap_foldl_flip {α : Type} (cell : α → Option (Fin (area width height))) (bits : List α)
    (state : Framebuffer width height × Bool) :
    (bits.foldl (fun state bit => flip state (cell bit)) state).1.wrap = state.1.wrap := by
  induction bits generalizing state with
  | nil => rfl
  | cons bit bits ih => rw [List.foldl_cons, ih, wrap_flip]

theorem wrap_blit (fb : Framebuffer width height) (x y : Int) (sprite : List UInt8) :
    (fb.blit x y sprite).1.wrap = fb.wrap :=
  wrap_foldl_flip (fun bit : Nat × Nat => fb.cell? (x + bit.1) (y + bit.2)) (setBits sprite) _

theorem wrap_randomize (fb : Framebuffer width height) (g : Random.Generator) :
    (fb.randomize g).1.wrap = fb.wrap := rfl

theorem wrap_set {fb fb' : Framebuffer width height} {x y : Int} {lit : Bool}
    (stored : fb.set x y lit = .ok fb') : fb'.wrap = fb.wrap := by
  unfold set at stored
  cases place : position (area width height) (y * width + x) with
  | error error =>
    rw [place] at stored
    cases stored
  | ok i =>
    rw [place] at stored
    cases stored
    rfl

end ChipEight.Framebuffer
