import ChipEight.Proofs.Framebuffer.Order

/-!
# Surfaces turned around their edges

A surface that wraps around has no first column and no first row. Where its pixels are turned around
the edges, a sprite that is moved as far falls on the pixels that it fell on before
(`addresses_turn`), so drawing and turning may change places.
-/

namespace ChipEight.Framebuffer

variable {width height : Int} {fb : Framebuffer width height}

/-- The number of the pixel in column `x` and row `y`, both counted around the edges. -/
def around (width height x y : Int) : Int := y % height * width + x % width

/-- The pixel that lies `dx` columns right of pixel `p` and `dy` rows below it, around the edges. -/
def turn (dx dy : Int) (p : Fin (area width height)) : Fin (area width height) :=
  let i := around width height (p % width + dx) (p / width + dy)
  if inside : 0 ≤ i ∧ i < area width height then ⟨i.toNat, by omega⟩ else p

/-- The surface with each pixel moved `dx` columns to the right and `dy` rows down, around the
edges. -/
def rotate (fb : Framebuffer width height) (dx dy : Int) : Framebuffer width height :=
  { fb with pixels := Vector.ofFn fun p => fb.pixel (turn (-dx) (-dy) p) }

/-! ### Numbers of pixels -/

theorem around_bounds (hw : 1 ≤ width) (hh : 1 ≤ height) (x y : Int) :
    0 ≤ around width height x y ∧ around width height x y < area width height := by
  have wide : 0 < width := by omega
  have high : 0 < height := by omega
  have bounds := number_bounds (Int.emod_nonneg x (Int.ne_of_gt wide)) (Int.emod_lt_of_pos x wide)
    (Int.emod_nonneg y (Int.ne_of_gt high)) (Int.emod_lt_of_pos y high)
  rw [Int.mul_comm height width] at bounds
  unfold around area
  omega

theorem around_emod_ediv (hw : 1 ≤ width) (height x y : Int) :
    around width height x y % width = x % width ∧ around width height x y / width = y % height := by
  have left := Int.emod_nonneg x (by omega : width ≠ 0)
  have right := Int.emod_lt_of_pos x (by omega : 0 < width)
  unfold around
  constructor
  · rw [Int.add_comm, Int.add_mul_emod_self_right, Int.emod_emod]
  · rw [Int.add_comm, Int.add_mul_ediv_right _ _ (by omega), Int.ediv_eq_zero_of_lt left right,
      Int.zero_add]

theorem around_add_emod (x y dx dy : Int) :
    around width height (x % width + dx) (y % height + dy) =
      around width height (x + dx) (y + dy) := by
  unfold around
  rw [Int.emod_add_emod, Int.emod_add_emod]

theorem around_self (hw : 1 ≤ width) (p : Fin (area width height)) :
    around width height (p % width) (p / width) = p := by
  have below := p.isLt
  have row_lower : 0 ≤ (p : Int) / width := Int.ediv_nonneg (by omega) (by omega)
  have row_upper : (p : Int) / width < height := by
    apply Int.ediv_lt_of_lt_mul (by omega)
    rw [Int.mul_comm]
    unfold area at below
    omega
  unfold around
  rw [Int.emod_emod, Int.emod_eq_of_lt row_lower row_upper, Int.mul_comm]
  exact Int.mul_ediv_add_emod p width

theorem val_turn (hw : 1 ≤ width) (hh : 1 ≤ height) (dx dy : Int) (p : Fin (area width height)) :
    ((turn dx dy p).val : Int) = around width height (p % width + dx) (p / width + dy) := by
  have inside := around_bounds hw hh ((p : Int) % width + dx) ((p : Int) / width + dy)
  unfold turn
  rw [dif_pos inside]
  exact Int.toNat_of_nonneg inside.1

theorem turn_turn (hw : 1 ≤ width) (hh : 1 ≤ height) (dx dy : Int)
    (p : Fin (area width height)) : turn (-dx) (-dy) (turn dx dy p) = p := by
  apply Fin.ext
  apply Int.ofNat_inj.mp
  rw [val_turn hw hh, val_turn hw hh]
  obtain ⟨column, row⟩ := around_emod_ediv hw height (p % width + dx) (p / width + dy)
  rw [column, row, around_add_emod, Int.add_neg_cancel_right, Int.add_neg_cancel_right]
  exact around_self hw p

/-! ### Sprites on a turned surface -/

theorem addresses_iff_around (wrap : fb.wrap = true) {x y : Int} {p : Fin (area width height)} :
    fb.Addresses x y p ↔ (p.val : Int) = around width height x y := by
  rw [Addresses, if_pos wrap]
  rfl

theorem addresses_turn (hw : 1 ≤ width) (hh : 1 ≤ height) (wrap : fb.wrap = true) (dx dy : Int)
    {x y : Int} {p : Fin (area width height)} (here : fb.Addresses x y p) :
    fb.Addresses (x + dx) (y + dy) (turn dx dy p) := by
  rw [addresses_iff_around wrap] at here ⊢
  obtain ⟨column, row⟩ := around_emod_ediv hw height x y
  rw [val_turn hw hh, here, column, row, around_add_emod]

theorem addresses_turn_iff (hw : 1 ≤ width) (hh : 1 ≤ height) (wrap : fb.wrap = true)
    {x y dx dy : Int} {p : Fin (area width height)} :
    fb.Addresses (x + dx) (y + dy) (turn dx dy p) ↔ fb.Addresses x y p := by
  constructor
  · intro there
    have back := addresses_turn hw hh wrap (-dx) (-dy) there
    rwa [turn_turn hw hh, Int.add_neg_cancel_right, Int.add_neg_cancel_right] at back
  · exact addresses_turn hw hh wrap dx dy

theorem hits_turn (hw : 1 ≤ width) (hh : 1 ≤ height) (wrap : fb.wrap = true) (x y dx dy : Int)
    (sprite : List UInt8) (p : Fin (area width height)) :
    fb.hits (x + dx) (y + dy) sprite (turn dx dy p) = fb.hits x y sprite p := by
  apply List.countP_congr
  intro bit _
  rw [decide_eq_true_iff, decide_eq_true_iff, Int.add_right_comm x, Int.add_right_comm y]
  exact addresses_turn_iff hw hh wrap

theorem pixel_rotate (hw : 1 ≤ width) (hh : 1 ≤ height) (fb : Framebuffer width height)
    (dx dy : Int) (p : Fin (area width height)) :
    (fb.rotate dx dy).pixel (turn dx dy p) = fb.pixel p := by
  have moved : (fb.rotate dx dy).pixel (turn dx dy p) =
      fb.pixel (turn (-dx) (-dy) (turn dx dy p)) := Vector.getElem_ofFn _
  rw [moved, turn_turn hw hh]

theorem exists_turn (hw : 1 ≤ width) (hh : 1 ≤ height) (dx dy : Int)
    (q : Fin (area width height)) : ∃ p, q = turn dx dy p := by
  have back := turn_turn hw hh (-dx) (-dy) q
  rw [Int.neg_neg, Int.neg_neg] at back
  exact ⟨_, back.symm⟩

/-- On a surface that wraps around, a sprite moved as far as the pixels meets the same pixels. -/
theorem blit_rotate (hw : 1 ≤ width) (hh : 1 ≤ height) (wrap : fb.wrap = true) (x y dx dy : Int)
    (sprite : List UInt8) :
    (fb.rotate dx dy).blit (x + dx) (y + dy) sprite =
      ((fb.blit x y sprite).1.rotate dx dy, (fb.blit x y sprite).2) := by
  have wrap' : (fb.rotate dx dy).wrap = true := wrap
  have hits (p : Fin (area width height)) :
      (fb.rotate dx dy).hits (x + dx) (y + dy) sprite (turn dx dy p) = fb.hits x y sprite p :=
    hits_turn hw hh wrap' x y dx dy sprite p
  apply Prod.ext
  · apply eq_of_pixels
    · rw [wrap_blit]
      exact (wrap_blit fb x y sprite).symm
    · intro q
      obtain ⟨p, rfl⟩ := exists_turn hw hh dx dy q
      rw [pixel_blit hw hh, hits, pixel_rotate hw hh, pixel_rotate hw hh, pixel_blit hw hh]
  · -- A pixel that is lit and met twice or more on one surface is turned into one on the other.
    apply Bool.eq_iff_iff.mpr
    rw [darkened_blit hw hh, darkened_blit hw hh]
    constructor
    · rintro ⟨q, twice⟩
      obtain ⟨p, rfl⟩ := exists_turn hw hh dx dy q
      rw [hits, pixel_rotate hw hh] at twice
      exact ⟨p, twice⟩
    · rintro ⟨p, twice⟩
      refine ⟨turn dx dy p, ?_⟩
      rwa [hits, pixel_rotate hw hh]

/-! ### Places that are the same -/

/-- Where the pixels of a sprite fall is all that matters of its place. -/
theorem blit_congr {x y x' y' : Int}
    (same : ∀ col row : Nat, fb.offset (x + col) (y + row) = fb.offset (x' + col) (y' + row))
    (sprite : List UInt8) : fb.blit x y sprite = fb.blit x' y' sprite := by
  have cells : fb.cellsUnder x y sprite = fb.cellsUnder x' y' sprite := by
    apply List.map_congr_left
    intro bit _
    unfold cell?
    simp only [same]
  rw [blit_eq_foldl, blit_eq_foldl, cells]

theorem blit_around (hw : 1 ≤ width) (hh : 1 ≤ height) (wrap : fb.wrap = true) (x y i j : Int)
    (sprite : List UInt8) :
    fb.blit (x + i * width) (y + j * height) sprite = fb.blit x y sprite := by
  apply blit_congr
  intro col row
  have column : x + i * width + col = x + col + i * width := Int.add_right_comm ..
  have line : y + j * height + row = y + row + j * height := Int.add_right_comm ..
  unfold offset
  rw [if_pos wrap, if_pos wrap, column, line, Int.fmod_eq_emod_of_nonneg _ (by omega),
    Int.fmod_eq_emod_of_nonneg _ (by omega), Int.fmod_eq_emod_of_nonneg _ (by omega),
    Int.fmod_eq_emod_of_nonneg _ (by omega), Int.add_mul_emod_self_right,
    Int.add_mul_emod_self_right]

/-- Without wrapping around, going beyond the edge is going on in the next row. -/
theorem blit_beyond (wrap : fb.wrap = false) (x y k : Int) (sprite : List UInt8) :
    fb.blit (x + k * width) y sprite = fb.blit x (y + k) sprite := by
  apply blit_congr
  intro col row
  unfold offset
  simp only [wrap, Bool.false_eq_true, if_false, Int.add_mul]
  omega

/-- A surface that wraps around looks the same from each of its pixels: turned by any number of
columns and rows, it takes a sprite that is moved as far in the same way, and the place of a sprite
counts modulo the edges only. On a surface that does not wrap around, a sprite that is moved by
whole rows of pixels to the right is moved down. -/
theorem drawing_turns_with_surface (fb : Framebuffer width height) (hw : 1 ≤ width)
    (hh : 1 ≤ height) (x y dx dy : Int) (sprite : List UInt8) :
    (fb.wrap = true →
      (∀ column row p q, fb.Addresses column row p →
        fb.Addresses (column + dx) (row + dy) q → (fb.rotate dx dy).pixel q = fb.pixel p) ∧
      ∃ drawn collision,
        fb.draw x y sprite = .ok (drawn, collision) ∧
        (fb.rotate dx dy).draw (x + dx) (y + dy) sprite = .ok (drawn.rotate dx dy, collision) ∧
        ∀ i j, fb.draw (x + i * width) (y + j * height) sprite = .ok (drawn, collision)) ∧
    (fb.wrap = false → ∀ k,
      fb.draw (x + k * width) y sprite = .ok (fb.blit x (y + k) sprite) ∧
      fb.draw x (y + k) sprite = .ok (fb.blit x (y + k) sprite)) := by
  have goes (fb : Framebuffer width height) (x y : Int) :
      fb.draw x y sprite = .ok (fb.blit x y sprite) :=
    fb.draw_eq_blit x y sprite (by omega) (by omega)
  constructor
  · intro wrap
    refine ⟨?_, (fb.blit x y sprite).1, (fb.blit x y sprite).2, goes fb x y, ?_, ?_⟩
    · intro column row p q here there
      have same : q = turn dx dy p := by
        have turned := addresses_turn hw hh wrap dx dy here
        rw [addresses_iff_around wrap] at there turned
        apply Fin.ext
        omega
      rw [same, pixel_rotate hw hh]
    · rw [goes, blit_rotate hw hh wrap]
    · intro i j
      rw [goes, blit_around hw hh wrap]
  · intro wrap k
    exact ⟨by rw [goes, blit_beyond wrap], goes fb x (y + k)⟩

/-- A row that wraps around onto itself meets the lit pixel, wherever both of them are turned. -/
theorem drawing_turns_with_surface_of_narrow :
    let narrow := (dark 3 2 true).putPixel ⟨0, by decide⟩ true
    let open_edged := dark 3 2 false
    ((1 : Int) ≤ 3 ∧ (1 : Int) ≤ 2 ∧ narrow.wrap = true ∧ open_edged.wrap = false) ∧
    (narrow.rotate 4 (-3)).pixel ⟨4, by decide⟩ = true ∧
    (∃ drawn, narrow.draw (-1) 6 [0xFF] = .ok (drawn, true) ∧
      (narrow.rotate 4 (-3)).draw 3 3 [0xFF] = .ok (drawn.rotate 4 (-3), true)) ∧
    open_edged.draw (-2) 1 [0xC0] = open_edged.draw 1 0 [0xC0] := by
  intro narrow open_edged
  have wrap : narrow.wrap = true := rfl
  have no_wrap : open_edged.wrap = false := rfl
  obtain ⟨turned, -⟩ :=
    drawing_turns_with_surface narrow (by decide) (by decide) (-1) 6 4 (-3) [0xFF]
  obtain ⟨moved, drawn, collision, once, there, -⟩ := turned wrap
  obtain ⟨-, beyond⟩ :=
    drawing_turns_with_surface open_edged (by decide) (by decide) 1 1 0 0 [0xC0]
  obtain ⟨right, down⟩ := beyond no_wrap (-1)
  have met : collision = true := by
    have told : (narrow.blit (-1) 6 [0xFF]).2 = true := by decide
    rw [narrow.draw_eq_blit (-1) 6 [0xFF] (by decide) (by decide)] at once
    rw [Except.ok.inj once] at told
    exact told
  subst met
  refine ⟨⟨by decide, by decide, wrap, no_wrap⟩, ?_, ⟨drawn, once, there⟩, right.trans down.symm⟩
  exact moved 0 0 ⟨0, by decide⟩ ⟨4, by decide⟩ (by decide) (by decide)

end ChipEight.Framebuffer
