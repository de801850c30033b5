import ChipEight.Proofs.Except
import ChipEight.Proofs.Framebuffer.Cell

/-!
# What a sprite does to the pixels

A pixel is flipped once for every set bit of the sprite that falls on it (`pixel_foldl_flip`), and a
blit darkens a lit pixel iff some pixel, counted with the bits that fall on it, comes to two or more
(`darkened_foldl_flip`). Where no two bits fall on one pixel, a pixel darkened is dark in the end.
-/

namespace ChipEight

/-! ### Set bits -/

theorem mem_setBits {sprite : List UInt8} {bit : Nat × Nat} :
    bit ∈ setBits sprite ↔
      bit.1 < 8 ∧ ∃ byte, sprite[bit.2]? = some byte ∧ rowBit byte bit.1 = true := by
  unfold setBits
  rw [List.mem_flatMap]
  constructor
  · rintro ⟨⟨byte, row⟩, inside, here⟩
    obtain ⟨col, lit, rfl⟩ := List.mem_map.mp here
    obtain ⟨left, lit⟩ := List.mem_filter.mp lit
    exact ⟨List.mem_range.mp left, byte, List.mk_mem_zipIdx_iff_getElem?.mp inside, lit⟩
  · rintro ⟨left, byte, inside, lit⟩
    refine ⟨(byte, bit.2), List.mk_mem_zipIdx_iff_getElem?.mpr inside, List.mem_map.mpr ?_⟩
    exact ⟨bit.1, List.mem_filter.mpr ⟨List.mem_range.mpr left, lit⟩, rfl⟩

theorem bounds_of_mem_setBits {sprite : List UInt8} {bit : Nat × Nat} (set : bit ∈ setBits sprite) :
    bit.1 < 8 ∧ bit.2 < sprite.length := by
  obtain ⟨left, byte, inside, -⟩ := mem_setBits.mp set
  exact ⟨left, (List.getElem?_eq_some_iff.mp inside).1⟩

/-- Set bits come row by row and from left to right, each of them once. -/
theorem pairwise_setBits (sprite : List UInt8) :
    (setBits sprite).Pairwise fun first second =>
      first.2 < second.2 ∨ first.2 = second.2 ∧ first.1 < second.1 := by
  have rows : sprite.zipIdx.Pairwise fun first second => first.2 < second.2 := by
    rw [← List.pairwise_map (f := Prod.snd) (R := (· < ·)), List.zipIdx_map_snd]
    exact List.pairwise_lt_range'
  refine List.pairwise_flatMap.mpr ⟨fun entry _ => ?_, rows.imp fun {first second} above => ?_⟩
  · have columns : ((List.range 8).filter (rowBit entry.1)).Pairwise (· < ·) :=
      List.pairwise_lt_range.filter _
    exact List.pairwise_map.mpr (columns.imp fun left => .inr ⟨rfl, left⟩)
  · intro bit here bit' here'
    obtain ⟨col, -, rfl⟩ := List.mem_map.mp here
    obtain ⟨col', -, rfl⟩ := List.mem_map.mp here'
    exact .inl above

namespace Framebuffer

variable {width height : Int} {fb : Framebuffer width height}

/-! ### Flips -/

theorem pixel_putPixel (fb : Framebuffer width height) (i p : Fin (area width height))
    (lit : Bool) : (fb.putPixel i lit).pixel p = if i = p then lit else fb.pixel p := by
  simp only [pixel, putPixel, Fin.getElem_fin, Vector.getElem_set, Fin.ext_iff]

theorem pixel_flip (state : Framebuffer width height × Bool) (i p : Fin (area width height)) :
    (flip state (some i)).1.pixel p = if i = p then !state.1.pixel i else state.1.pixel p :=
  pixel_putPixel ..

theorem pixel_foldl_flip (cells : List (Option (Fin (area width height))))
    (state : Framebuffer width height × Bool) (p : Fin (area width height)) :
    ((cells.foldl flip state).1.pixel p).toNat =
      ((state.1.pixel p).toNat + cells.count (some p)) % 2 := by
  induction cells generalizing state with
  | nil =>
    have bit : (state.1.pixel p).toNat < 2 := Bool.toNat_lt _
    exact (Nat.mod_eq_of_lt bit).symm
  | cons i? cells ih =>
    rw [List.foldl_cons, ih]
    cases i? with
    | none =>
      rw [List.count_cons_of_ne (by simp)]
      rfl
    | some i =>
      rw [pixel_flip]
      by_cases same : i = p
      · subst same
        rw [if_pos rfl, List.count_cons_self]
        cases state.1.pixel i <;> simp <;> omega
      · rw [if_neg same, List.count_cons_of_ne (by simpa using same)]

theorem darkened_foldl_flip (cells : List (Option (Fin (area width height))))
    (state : Framebuffer width height × Bool) :
    (cells.foldl flip state).2 = true ↔
      state.2 = true ∨ ∃ p, 2 ≤ (state.1.pixel p).toNat + cells.count (some p) := by
  induction cells generalizing state with
  | nil =>
    have single : ¬∃ p, 2 ≤ (state.1.pixel p).toNat + List.count (some p) [] := by
      rintro ⟨p, two⟩
      exact Nat.not_lt.mpr two (Bool.toNat_lt _)
    rw [List.foldl_nil, or_iff_left single]
  | cons i? cells ih =>
    rw [List.foldl_cons, ih]
    cases i? with
    | none =>
      simp only [List.count_cons_of_ne (a := some _) (b := none) (by simp)]
      rfl
    | some i =>
      cases lit : state.1.pixel i with
      | true =>
        -- The pixel is met lit now, and counts for one beside this bit.
        have now : (flip state (some i)).2 = true := by simp [flip, lit]
        have counted : 2 ≤ (state.1.pixel i).toNat + (some i :: cells).count (some i) := by
          rw [lit, List.count_cons_self, Bool.toNat_true]
          omega
        exact ⟨fun _ => .inr ⟨i, counted⟩, fun _ => .inl now⟩
      | false =>
        -- The flip moves one from the bits to come to the pixel.
        have later : (flip state (some i)).2 = state.2 := by simp [flip, lit]
        have moved : ∀ p, ((flip state (some i)).1.pixel p).toNat + cells.count (some p) =
            (state.1.pixel p).toNat + (some i :: cells).count (some p) := by
          intro p
          rw [pixel_flip]
          by_cases same : i = p
          · subst same
            rw [if_pos rfl, lit, List.count_cons_self, Bool.not_false, Bool.toNat_true,
              Bool.toNat_false]
            omega
          · rw [if_neg same, List.count_cons_of_ne (by simpa using same)]
        simp only [later, moved]

/-! ### Blits -/

/-- Whether a sprite pixel at `(x, y)` falls on pixel number `p`. -/
def Addresses (fb : Framebuffer width height) (x y : Int) (p : Fin (area width height)) : Prop :=
  (p.val : Int) = if fb.wrap then y % height * width + x % width else y * width + x

instance (fb : Framebuffer width height) (x y : Int) (p : Fin (area width height)) :
    Decidable (fb.Addresses x y p) :=
  inferInstanceAs (Decidable (_ = _))

/-- The number of set bits of `sprite`, its upper left corner at `(x, y)`, that fall on pixel
number `p`. -/
def hits (fb : Framebuffer width height) (x y : Int) (sprite : List UInt8)
    (p : Fin (area width height)) : Nat :=
  (setBits sprite).countP fun bit => fb.Addresses (x + bit.1) (y + bit.2) p

/-- Where the set bits of `sprite` fall, in the order in which they are drawn. -/
def cellsUnder (fb : Framebuffer width height) (x y : Int) (sprite : List UInt8) :
    List (Option (Fin (area width height))) :=
  (setBits sprite).map fun bit => fb.cell? (x + bit.1) (y + bit.2)

theorem blit_eq_foldl (fb : Framebuffer width height) (x y : Int) (sprite : List UInt8) :
    fb.blit x y sprite = (fb.cellsUnder x y sprite).foldl flip (fb, false) := by
  rw [cellsUnder, List.foldl_map]
  rfl

theorem cell?_eq_some_iff (hw : 1 ≤ width) (hh : 1 ≤ height) {x y : Int}
    {p : Fin (area width height)} : fb.cell? x y = some p ↔ fb.Addresses x y p := by
  have offset : fb.offset x y =
      if fb.wrap then y % height * width + x % width else y * width + x := by
    rw [offset, Int.fmod_eq_emod_of_nonneg y (by omega), Int.fmod_eq_emod_of_nonneg x (by omega)]
  have below := p.isLt
  unfold cell? Addresses
  rw [← offset]
  by_cases inside : 0 ≤ fb.offset x y ∧ fb.offset x y < area width height
  · rw [dif_pos inside, Option.some.injEq, Fin.ext_iff]
    show (fb.offset x y).toNat = p.val ↔ _
    omega
  · rw [dif_neg inside]
    constructor
    · intro never
      cases never
    · intro same
      omega

theorem count_cellsUnder (hw : 1 ≤ width) (hh : 1 ≤ height) (x y : Int) (sprite : List UInt8)
    (p : Fin (area width height)) :
    (fb.cellsUnder x y sprite).count (some p) = fb.hits x y sprite p := by
  rw [cellsUnder, hits, List.count_eq_countP, List.countP_map]
  apply List.countP_congr
  intro bit _
  rw [Function.comp_apply, beq_iff_eq, decide_eq_true_iff]
  exact cell?_eq_some_iff hw hh

theorem pixel_blit (hw : 1 ≤ width) (hh : 1 ≤ height) (x y : Int) (sprite : List UInt8)
    (p : Fin (area width height)) : ((fb.blit x y sprite).1.pixel p).toNat =
      ((fb.pixel p).toNat + fb.hits x y sprite p) % 2 := by
  rw [blit_eq_foldl, pixel_foldl_flip, count_cellsUnder hw hh]

theorem darkened_blit (hw : 1 ≤ width) (hh : 1 ≤ height) (x y : Int) (sprite : List UInt8) :
    (fb.blit x y sprite).2 = true ↔ ∃ p, 2 ≤ (fb.pixel p).toNat + fb.hits x y sprite p := by
  rw [blit_eq_foldl, darkened_foldl_flip]
  simp only [count_cellsUnder hw hh, Bool.false_eq_true, false_or]

/-! ### Bits apart -/

/-- Two numbers have the same quotient if their remainders are closer than the divisor. -/
theorem eq_of_near {w q r a b : Int} (near : b - a < w) (near' : a - b < w)
    (same : q * w + a = r * w + b) : q = r ∧ a = b := by
  have above {q r : Int} (less : q < r) : q * w + w ≤ r * w := by
    have product := Int.mul_le_mul_of_nonneg_right (c := w) less (by omega)
    rwa [Int.add_mul, Int.one_mul] at product
  obtain less | rfl | less := Int.lt_trichotomy q r
  · have := above less
    omega
  · omega
  · have := above less
    omega

theorem eq_of_emod_eq {w a b : Int} (near : a - b < w) (near' : b - a < w)
    (same : a % w = b % w) : a = b := by
  have split := Int.mul_ediv_add_emod a w
  have split' := Int.mul_ediv_add_emod b w
  rw [Int.mul_comm] at split split'
  exact (eq_of_near (q := a / w) (r := b / w) near near' (by omega)).2.symm

/-- No two set bits of a sprite fall on one pixel of a surface as wide as the sprite, unless the
sprite wraps around onto its own first rows. -/
theorem eq_of_addresses {x y : Int} {rows : Nat} {p : Fin (area width height)}
    (wide : 8 ≤ width) (fits : fb.wrap = true → rows ≤ height)
    {bit bit' : Nat × Nat} (inside : bit.1 < 8 ∧ bit.2 < rows)
    (inside' : bit'.1 < 8 ∧ bit'.2 < rows)
    (here : fb.Addresses (x + bit.1) (y + bit.2) p)
    (here' : fb.Addresses (x + bit'.1) (y + bit'.2) p) : bit = bit' := by
  have same := here.symm.trans here'
  cases wrap : fb.wrap with
  | true =>
    have fits := fits wrap
    simp only [wrap, if_true] at same
    have left := Int.emod_nonneg (x + bit.1) (by omega : width ≠ 0)
    have left' := Int.emod_nonneg (x + bit'.1) (by omega : width ≠ 0)
    have right := Int.emod_lt_of_pos (x + bit.1) (by omega : 0 < width)
    have right' := Int.emod_lt_of_pos (x + bit'.1) (by omega : 0 < width)
    obtain ⟨row, col⟩ := eq_of_near (by omega) (by omega) same
    have row := eq_of_emod_eq (by omega) (by omega) row
    have col := eq_of_emod_eq (by omega) (by omega) col
    exact Prod.ext (by omega) (by omega)
  | false =>
    simp only [wrap, Bool.false_eq_true, if_false] at same
    obtain ⟨row, col⟩ := eq_of_near (by omega) (by omega) same
    exact Prod.ext (by omega) (by omega)

theorem count_le_one {α : Type} [BEq α] [LawfulBEq α] {a : α} {l : List α}
    (apart : l.Pairwise fun b c => ¬(b = a ∧ c = a)) : l.count a ≤ 1 := by
  induction l with
  | nil => exact Nat.zero_le 1
  | cons b l ih =>
    obtain ⟨first, rest⟩ := List.pairwise_cons.mp apart
    by_cases met : b = a
    · have none_more : l.count a = 0 :=
        List.count_eq_zero.mpr fun again => first a again ⟨met, rfl⟩
      have once : (b :: l).count a = 1 := by rw [met, List.count_cons_self, none_more]
      exact Nat.le_of_eq once
    · rw [List.count_cons_of_ne met]
      exact ih rest

theorem hits_le_one (hh : 1 ≤ height) (wide : 8 ≤ width) {sprite : List UInt8}
    (fits : fb.wrap = true → sprite.length ≤ height) (x y : Int) (p : Fin (area width height)) :
    fb.hits x y sprite p ≤ 1 := by
  have hw : 1 ≤ width := by omega
  rw [← count_cellsUnder hw hh]
  refine count_le_one (a := some p) (List.pairwise_map.mpr ?_)
  refine (pairwise_setBits sprite).imp_of_mem fun {bit bit'} set set' before => ?_
  rintro ⟨here, here'⟩
  rw [cell?_eq_some_iff hw hh] at here here'
  have same := eq_of_addresses wide fits (bounds_of_mem_setBits set)
    (bounds_of_mem_setBits set') here here'
  rw [same] at before
  omega

/-! ### Accesses -/

/-- Why a blit would break off. -/
inductive AccessError where
  /-- A coordinate is taken modulo an edge of length zero. -/
  | zeroModulus
  /-- There is no pixel of that number. -/
  | noPixel
  deriving DecidableEq, Repr

/-- The number of the pixel at which a sprite pixel at `(x, y)` falls, or -1 if it falls off. A
number that has been wrapped around is not checked. -/
def reach (fb : Framebuffer width height) (x y : Int) : Except AccessError Int :=
  if fb.wrap then
    if height = 0 ∨ width = 0 then .error .zeroModulus
    else .ok (y.fmod height * width + x.fmod width)
  else
    let i := y * width + x
    .ok (if 0 ≤ i ∧ i < area width height then i else -1)

/-- Flips the pixel of a given number; a negative number stands for none. -/
def flipAt (state : Framebuffer width height × Bool) (i : Int) :
    Except AccessError (Framebuffer width height × Bool) :=
  if i < 0 then .ok state
  else if inside : i.toNat < area width height then .ok (flip state (some ⟨i.toNat, inside⟩))
  else .error .noPixel

/-- A blit that breaks off where an access fails. -/
def blitUnguarded (fb : Framebuffer width height) (x y : Int) (sprite : List UInt8) :
    Except AccessError (Framebuffer width height × Bool) :=
  (setBits sprite).foldlM (fun state bit => do
    let i ← state.1.reach (x + bit.1) (y + bit.2)
    flipAt state i) (fb, false)

theorem cell?_congr {fb fb' : Framebuffer width height} (same : fb.wrap = fb'.wrap) (x y : Int) :
    fb.cell? x y = fb'.cell? x y := by
  have number : fb.offset x y = fb'.offset x y := by simp only [offset, same]
  unfold cell?
  simp only [number]

theorem flipAt_reach (hw : 1 ≤ width) (hh : 1 ≤ height)
    (state : Framebuffer width height × Bool) (x y : Int) :
    (do let i ← state.1.reach x y; flipAt state i) = .ok (flip state (state.1.cell? x y)) := by
  have reached : state.1.reach x y =
      .ok (if 0 ≤ state.1.offset x y ∧ state.1.offset x y < area width height then
        state.1.offset x y else -1) := by
    unfold reach
    cases wrap : state.1.wrap with
    | true =>
      have edges : ¬(height = 0 ∨ width = 0) := by omega
      obtain ⟨lower, upper⟩ := offset_bounds wrap hw hh x y
      have inside : 0 ≤ state.1.offset x y ∧ state.1.offset x y < area width height := by
        rw [Int.mul_comm] at upper
        exact ⟨lower, by unfold area; omega⟩
      rw [if_pos rfl, if_neg edges, if_pos inside, offset, if_pos wrap]
    | false => simp only [offset, wrap, Bool.false_eq_true, if_false]
  rw [reached, ok_bind]
  unfold cell? flipAt
  by_cases inside : 0 ≤ state.1.offset x y ∧ state.1.offset x y < area width height
  · have number : (state.1.offset x y).toNat < area width height := by omega
    rw [if_pos inside, if_neg (by omega), dif_pos number, dif_pos inside]
  · rw [if_neg inside, if_pos (by decide), dif_neg inside]
    rfl

theorem blitUnguarded_eq (hw : 1 ≤ width) (hh : 1 ≤ height) (x y : Int) (sprite : List UInt8) :
    fb.blitUnguarded x y sprite = .ok (fb.blit x y sprite) := by
  have fold : ∀ (bits : List (Nat × Nat)) (state : Framebuffer width height × Bool),
      state.1.wrap = fb.wrap →
      bits.foldlM (fun state bit => do
        let i ← state.1.reach (x + bit.1) (y + bit.2)
        flipAt state i) state =
      .ok (bits.foldl (fun state bit => flip state (fb.cell? (x + bit.1) (y + bit.2))) state) := by
    intro bits
    induction bits with
    | nil =>
      intro state _
      rfl
    | cons bit bits ih =>
      intro state same
      rw [List.foldlM_cons, flipAt_reach hw hh, ok_bind, cell?_congr same, List.foldl_cons]
      exact ih _ ((wrap_flip _ _).trans same)
  exact fold (setBits sprite) (fb, false) rfl

/-- A blit at any position goes through, flips each pixel once for every set bit that falls on it,
and tells whether some pixel, being lit or flipped before, was lit when it was flipped. Where no two
bits fall on one pixel, it tells whether a pixel that was lit is dark in the end. -/
theorem blit_flips_hits (fb : Framebuffer width height) (hw : 1 ≤ width) (hh : 1 ≤ height)
    (x y : Int) (sprite : List UInt8) :
    let drawn := fb.blit x y sprite
    fb.draw x y sprite = .ok drawn ∧
    fb.blitUnguarded x y sprite = .ok drawn ∧
    (∀ p, (drawn.1.pixel p).toNat = ((fb.pixel p).toNat + fb.hits x y sprite p) % 2) ∧
    (drawn.2 = true ↔ ∃ p, 2 ≤ (fb.pixel p).toNat + fb.hits x y sprite p) ∧
    (8 ≤ width → (fb.wrap = true → sprite.length ≤ height) →
      (drawn.2 = true ↔ ∃ p, fb.pixel p = true ∧ drawn.1.pixel p = false)) := by
  intro drawn
  have pixels : ∀ p, (drawn.1.pixel p).toNat = _ := pixel_blit hw hh x y sprite
  have darkened : drawn.2 = true ↔ _ := darkened_blit hw hh x y sprite
  refine ⟨fb.draw_eq_blit x y sprite (by omega) (by omega), blitUnguarded_eq hw hh x y sprite,
    pixels, darkened, fun wide fits => ?_⟩
  rw [darkened]
  refine exists_congr fun p => ?_
  have once := hits_le_one hh wide fits x y p
  have after := pixels p
  cases before : fb.pixel p <;> cases now : drawn.1.pixel p <;> rw [before, now] at after <;>
    simp at after ⊢ <;> omega

/-- A row that wraps around onto itself meets pixels again that were dark, and a row that begins
left of a lit surface darkens it. -/
theorem blit_flips_hits_of_overlap :
    let narrow := dark 3 2 true
    let lit := (dark 8 1 false).fill
    let p : Fin (area 3 2) := ⟨4, by decide⟩
    ((1 : Int) ≤ 3 ∧ (1 : Int) ≤ 2) ∧
    narrow.draw (-1) 5 [0xFF] = .ok (narrow.blit (-1) 5 [0xFF]) ∧
    narrow.hits (-1) 5 [0xFF] p = 2 ∧
    ((narrow.blit (-1) 5 [0xFF]).1.pixel p).toNat = 0 ∧
    (narrow.blit (-1) 5 [0xFF]).2 = true ∧
    ((1 : Int) ≤ 8 ∧ (1 : Int) ≤ 1 ∧ lit.wrap = false) ∧
    ∃ p, lit.pixel p = true ∧ (lit.blit (-4) 0 [0x0F]).1.pixel p = false := by
  intro narrow lit p
  have twice : narrow.hits (-1) 5 [0xFF] p = 2 := by decide
  obtain ⟨drawn, -, pixels, darkened, -⟩ :=
    blit_flips_hits narrow (by decide) (by decide) (-1) 5 [0xFF]
  obtain ⟨-, -, -, -, apart⟩ := blit_flips_hits lit (by decide) (by decide) (-4) 0 [0x0F]
  have collision : (lit.blit (-4) 0 [0x0F]).2 = true := by decide
  refine ⟨by decide, drawn, twice, ?_, darkened.mpr ⟨p, ?_⟩, by decide, ?_⟩
  · rw [pixels p, twice]
    decide
  · rw [twice]
    exact Nat.le_add_left 2 _
  · exact (apart (by decide) fun wrap => Bool.noConfusion wrap).mp collision

end Framebuffer

end ChipEight
