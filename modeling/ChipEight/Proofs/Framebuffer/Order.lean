import ChipEight.Proofs.Framebuffer.Blit

/-!
# Sprites one after the other

Sprites that are drawn one after the other flip each pixel as often as their set bits together fall
on it, and one of them darkens a lit pixel iff some pixel, counted with these bits, comes to two or
more (`drawAll_eq`). Neither depends on the order in which they are drawn.
-/

namespace ChipEight.Framebuffer

variable {width height : Int} {fb fb' : Framebuffer width height}

/-- A sprite and the place of its upper left corner. -/
structure Placement where
  x : Int
  y : Int
  sprite : List UInt8
  deriving DecidableEq, Repr

/-- Draws one sprite after the other and tells of each whether it darkened a lit pixel. -/
def drawAll (fb : Framebuffer width height) :
    List Placement → Except DrawError (Framebuffer width height × List Bool)
  | [] => .ok (fb, [])
  | placed :: rest => do
    let (drawn, darkened) ← fb.draw placed.x placed.y placed.sprite
    let (last, flags) ← drawn.drawAll rest
    return (last, darkened :: flags)

/-- The number of set bits of all the sprites that fall on pixel number `p`. -/
def hitsAll (fb : Framebuffer width height) :
    List Placement → Fin (area width height) → Nat
  | [], _ => 0
  | placed :: rest, p => fb.hits placed.x placed.y placed.sprite p + fb.hitsAll rest p

theorem hits_congr (same : fb.wrap = fb'.wrap) (x y : Int) (sprite : List UInt8)
    (p : Fin (area width height)) : fb.hits x y sprite p = fb'.hits x y sprite p := by
  apply List.countP_congr
  intro bit _
  rw [decide_eq_true_iff, decide_eq_true_iff, Addresses, Addresses, same]

theorem hitsAll_congr (same : fb.wrap = fb'.wrap) (placements : List Placement)
    (p : Fin (area width height)) : fb.hitsAll placements p = fb'.hitsAll placements p := by
  induction placements with
  | nil => rfl
  | cons placed rest ih => rw [hitsAll, hitsAll, hits_congr same, ih]

theorem hitsAll_append (fb : Framebuffer width height) (first second : List Placement)
    (p : Fin (area width height)) :
    fb.hitsAll (first ++ second) p = fb.hitsAll first p + fb.hitsAll second p := by
  induction first with
  | nil => exact (Nat.zero_add _).symm
  | cons placed rest ih => rw [List.cons_append, hitsAll, hitsAll, ih, Nat.add_assoc]

theorem hitsAll_perm {placements placements' : List Placement}
    (reordered : placements.Perm placements') (p : Fin (area width height)) :
    fb.hitsAll placements p = fb.hitsAll placements' p := by
  induction reordered with
  | nil => rfl
  | cons placed _ ih => rw [hitsAll, hitsAll, ih]
  | swap first second rest =>
    simp only [hitsAll]
    exact Nat.add_left_comm ..
  | trans _ _ ih ih' => exact ih.trans ih'

/-- Some set bit of a sprite falls on the surface. -/
def Meets (fb : Framebuffer width height) (placed : Placement) : Prop :=
  ∃ bit ∈ setBits placed.sprite, ∃ p, fb.Addresses (placed.x + bit.1) (placed.y + bit.2) p

theorem meets_iff {placed : Placement} :
    fb.Meets placed ↔ ∃ p, 1 ≤ fb.hitsAll [placed] p := by
  have single (p : Fin (area width height)) : 1 ≤ fb.hitsAll [placed] p ↔
      ∃ bit ∈ setBits placed.sprite, fb.Addresses (placed.x + bit.1) (placed.y + bit.2) p := by
    have none_more : fb.hitsAll [] p = 0 := rfl
    rw [hitsAll, none_more, hits, Nat.add_zero, Nat.succ_le_iff, List.countP_pos_iff]
    simp only [decide_eq_true_iff]
  simp only [single]
  constructor
  · rintro ⟨bit, set, p, here⟩
    exact ⟨p, bit, set, here⟩
  · rintro ⟨p, bit, set, here⟩
    exact ⟨bit, set, p, here⟩

theorem eq_of_pixels (wrap : fb.wrap = fb'.wrap)
    (pixels : ∀ p, (fb.pixel p).toNat = (fb'.pixel p).toNat) : fb = fb' := by
  have same : fb.pixels = fb'.pixels := by
    apply Vector.ext
    intro i inside
    have number := pixels ⟨i, inside⟩
    show fb.pixel ⟨i, inside⟩ = fb'.pixel ⟨i, inside⟩
    cases before : fb.pixel ⟨i, inside⟩ <;> cases after : fb'.pixel ⟨i, inside⟩ <;>
      simp [before, after] at number ⊢
  obtain ⟨_, _⟩ := fb
  obtain ⟨_, _⟩ := fb'
  simp only at wrap same
  rw [wrap, same]

theorem drawAll_pair (hw : 1 ≤ width) (hh : 1 ≤ height) (fb : Framebuffer width height)
    (first second : Placement) :
    let one := fb.blit first.x first.y first.sprite
    let two := one.1.blit second.x second.y second.sprite
    fb.drawAll [first, second] = .ok (two.1, [one.2, two.2]) := by
  have goes (fb : Framebuffer width height) (placed : Placement) :=
    fb.draw_eq_blit placed.x placed.y placed.sprite (by omega) (by omega)
  simp only [drawAll, goes, ok_bind, pure_eq_ok]

/-- What some sprites, drawn one after the other, make of the pixels, and what is returned. -/
theorem drawAll_eq (hw : 1 ≤ width) (hh : 1 ≤ height) (fb : Framebuffer width height)
    (placements : List Placement) :
    ∃ drawn flags, fb.drawAll placements = .ok (drawn, flags) ∧ drawn.wrap = fb.wrap ∧
      (∀ p, (drawn.pixel p).toNat = ((fb.pixel p).toNat + fb.hitsAll placements p) % 2) ∧
      (flags.or = true ↔ ∃ p, 2 ≤ (fb.pixel p).toNat + fb.hitsAll placements p) := by
  induction placements generalizing fb with
  | nil =>
    have lit (p : Fin (area width height)) : (fb.pixel p).toNat < 2 := Bool.toNat_lt _
    refine ⟨fb, [], rfl, rfl, ?_, ?_⟩
    · intro p
      exact (Nat.mod_eq_of_lt (lit p)).symm
    · simp only [List.or_nil, Bool.false_eq_true, false_iff, not_exists]
      intro p
      exact Nat.not_le.mpr (lit p)
  | cons placed rest ih =>
    have goes := fb.draw_eq_blit placed.x placed.y placed.sprite (by omega) (by omega)
    have wrap := fb.wrap_blit placed.x placed.y placed.sprite
    have pixels (p : Fin (area width height)) :
        ((fb.blit placed.x placed.y placed.sprite).1.pixel p).toNat =
          ((fb.pixel p).toNat + fb.hits placed.x placed.y placed.sprite p) % 2 :=
      pixel_blit hw hh _ _ _ p
    have darkened : (fb.blit placed.x placed.y placed.sprite).2 = true ↔
        ∃ p, 2 ≤ (fb.pixel p).toNat + fb.hits placed.x placed.y placed.sprite p :=
      darkened_blit hw hh _ _ _
    generalize fb.blit placed.x placed.y placed.sprite = first at goes wrap pixels darkened
    obtain ⟨drawn, flags, others, same, after, told⟩ := ih first.1
    simp only [hitsAll_congr wrap, pixels] at after told
    refine ⟨drawn, first.2 :: flags, ?_, same.trans wrap, ?_, ?_⟩
    · rw [drawAll, goes, ok_bind]
      dsimp only
      rw [others, ok_bind, pure_eq_ok]
    · intro p
      rw [after, hitsAll]
      omega
    · rw [List.or_cons, Bool.or_eq_true, darkened, told, ← exists_or]
      refine exists_congr fun p => ?_
      -- Unless this sprite brings the pixel to two, it leaves the count as it is.
      rw [hitsAll]
      omega

/-- Sprites drawn in another order give the same surface, and one of them darkens a lit pixel in
both cases or in neither. -/
theorem drawAll_perm (hw : 1 ≤ width) (hh : 1 ≤ height) (fb : Framebuffer width height)
    {placements placements' : List Placement} (reordered : placements.Perm placements') :
    ∃ drawn flags flags', fb.drawAll placements = .ok (drawn, flags) ∧
      fb.drawAll placements' = .ok (drawn, flags') ∧ flags.or = flags'.or := by
  obtain ⟨drawn, flags, goes, wrap, pixels, told⟩ := drawAll_eq hw hh fb placements
  obtain ⟨drawn', flags', goes', wrap', pixels', told'⟩ := drawAll_eq hw hh fb placements'
  simp only [← hitsAll_perm reordered] at pixels' told'
  have same : drawn' = drawn := by
    apply eq_of_pixels (wrap'.trans wrap.symm)
    intro p
    exact (pixels' p).trans (pixels p).symm
  refine ⟨drawn, flags, flags', goes, same ▸ goes', ?_⟩
  exact Bool.eq_iff_iff.mpr (told.trans told'.symm)

/-- Sprites that are drawn a second time take back what they did. Some lit pixel has been darkened
then iff some bit has fallen on the surface. -/
theorem drawAll_twice (hw : 1 ≤ width) (hh : 1 ≤ height) (fb : Framebuffer width height)
    (placements : List Placement) :
    ∃ flags, fb.drawAll (placements ++ placements) = .ok (fb, flags) ∧
      (flags.or = true ↔ ∃ p, 1 ≤ fb.hitsAll placements p) := by
  obtain ⟨drawn, flags, goes, wrap, pixels, told⟩ := drawAll_eq hw hh fb (placements ++ placements)
  simp only [hitsAll_append] at pixels told
  have lit (p : Fin (area width height)) : (fb.pixel p).toNat < 2 := Bool.toNat_lt _
  have restored : drawn = fb := by
    apply eq_of_pixels wrap
    intro p
    have bit := lit p
    have after := pixels p
    omega
  refine ⟨flags, restored ▸ goes, ?_⟩
  rw [told]
  refine exists_congr fun p => ?_
  have bit := lit p
  omega

end ChipEight.Framebuffer
