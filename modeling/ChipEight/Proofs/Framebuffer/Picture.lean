import ChipEight.Framebuffer.Basic
import ChipEight.Proofs.Framebuffer.Raster
import Mathlib.Data.List.Basic
import Mathlib.Data.List.Count

/-!
# Pictures show the pixels

The lines of a picture are the rows of pixels (`splitOn_picture`), which one after the other are all
pixels (`flatMap_row`). So a picture has a character for each pixel and determines them all.
-/

namespace ChipEight

/-! ### Views of a raster -/

namespace Raster

variable {width height : Int}

def litCount (r : Raster width height) : Nat :=
  r.bytes.foldl (fun sum byte => sum + byte.toNat) 0

def lines (r : Raster width height) (on off : String) : List String :=
  (List.range height.toNat).map fun y =>
    String.join ((r.bytes.extract (y * width.toNat) ((y + 1) * width.toNat)).map fun byte =>
      if byte ≠ 0 then on else off)

def picture (r : Raster width height) (on off : String) : String :=
  "\n".intercalate (r.lines on off)

theorem litCount_ofSurface (fb : Framebuffer width height) :
    (ofSurface fb).litCount = fb.litCount := by
  have sum (pixels : List Bool) (n : Nat) :
      (pixels.map pixelByte).foldl (fun sum byte => sum + byte.toNat) n =
        n + pixels.count true := by
    induction pixels generalizing n with
    | nil => rfl
    | cons lit pixels ih =>
      rw [List.map_cons, List.foldl_cons, ih, List.count_cons, Nat.add_assoc]
      cases lit with
      | true => exact congrArg (n + ·) (Nat.add_comm 1 _)
      | false => exact congrArg (n + ·) (Nat.zero_add _)
  rw [litCount, ofSurface, sum, Nat.zero_add, Framebuffer.litCount, Vector.count_toList]

theorem lines_ofSurface (fb : Framebuffer width height) (on off : String) :
    (ofSurface fb).lines on off = fb.lines on off := by
  have text (lit : Bool) : (if pixelByte lit ≠ 0 then on else off) = if lit then on else off := by
    cases lit <;> rfl
  apply List.map_congr_left
  intro y _
  rw [Framebuffer.rowText, Framebuffer.row, Array.toList_extract, ofSurface]
  simp only [List.extract_eq_take_drop, ← List.map_drop, ← List.map_take, List.map_map,
    Function.comp_def, text]
  rfl

theorem picture_ofSurface (fb : Framebuffer width height) (on off : String) :
    (ofSurface fb).picture on off = fb.picture on off := by
  rw [picture, lines_ofSurface]
  rfl

end Raster

namespace Framebuffer

variable {width height : Int} {fb : Framebuffer width height}

/-! ### Rows -/

theorem area_eq (hw : 1 ≤ width) (hh : 1 ≤ height) :
    area width height = height.toNat * width.toNat := by
  rw [area, Int.toNat_mul (by omega) (by omega), Nat.mul_comm]

theorem row_inside (hw : 1 ≤ width) (hh : 1 ≤ height) {y : Nat} (bottom : y < height.toNat) :
    (y + 1) * width.toNat ≤ area width height := by
  rw [area_eq hw hh]
  exact Nat.mul_le_mul_right _ bottom

theorem number_lt (hw : 1 ≤ width) (hh : 1 ≤ height) {x y : Nat} (right : x < width.toNat)
    (bottom : y < height.toNat) : y * width.toNat + x < area width height := by
  have inside := row_inside hw hh bottom
  rw [Nat.succ_mul] at inside
  omega

theorem row_eq (fb : Framebuffer width height) (y : Nat) :
    fb.row y = fb.pixels.toList.extract (y * width.toNat) ((y + 1) * width.toNat) :=
  Array.toList_extract

theorem flatMap_row (hw : 1 ≤ width) (hh : 1 ≤ height) (fb : Framebuffer width height) :
    (List.range height.toNat).flatMap fb.row = fb.pixels.toList := by
  have all : fb.pixels.toList.length ≤ height.toNat * width.toNat := by
    rw [Vector.length_toList]
    exact Nat.le_of_eq (area_eq hw hh)
  have rows := flatMap_extract fb.pixels.toList width.toNat height.toNat
  rw [List.take_of_length_le all] at rows
  rw [← rows]
  exact congrArg (List.flatMap · _) (funext fb.row_eq)

theorem getElem?_row (hw : 1 ≤ width) (hh : 1 ≤ height) (fb : Framebuffer width height) {x y : Nat}
    (right : x < width.toNat) (bottom : y < height.toNat) :
    (fb.row y)[x]? = some (fb.pixel ⟨y * width.toNat + x, number_lt hw hh right bottom⟩) := by
  have inside := number_lt hw hh right bottom
  have within : x < (y + 1) * width.toNat - y * width.toNat := by
    rw [Nat.succ_mul]
    omega
  rw [row_eq, List.extract_eq_take_drop, List.getElem?_take, if_pos within, List.getElem?_drop,
    Vector.getElem?_toList, Vector.getElem?_eq_getElem inside]
  rfl

theorem length_row (hw : 1 ≤ width) (hh : 1 ≤ height) (fb : Framebuffer width height) {y : Nat}
    (bottom : y < height.toNat) : (fb.row y).length = width.toNat := by
  have inside := row_inside hw hh bottom
  rw [Nat.succ_mul] at inside
  rw [row_eq, List.extract_eq_take_drop, List.length_take, List.length_drop, Vector.length_toList,
    Nat.succ_mul]
  omega

/-! ### Lines of the picture -/

def mark (on off : Char) (lit : Bool) : Char := if lit then on else off

theorem mark_injective {on off : Char} (distinct : on ≠ off) :
    Function.Injective (mark on off) := by
  intro lit lit' same
  cases lit <;> cases lit'
  · rfl
  · exact absurd same.symm distinct
  · exact absurd same distinct
  · rfl

def shownRows (fb : Framebuffer width height) (on off : Char) : List (List Char) :=
  (List.range height.toNat).map fun y => (fb.row y).map (mark on off)

theorem toList_picture (fb : Framebuffer width height) (on off : Char) :
    (fb.picture (.singleton on) (.singleton off)).toList =
      ['\n'].intercalate (fb.shownRows on off) := by
  have piece (lit : Bool) : (if lit then String.singleton on else .singleton off).toList =
      [mark on off lit] := by
    cases lit <;> exact String.toList_singleton _
  have line (pixels : List Bool) : (rowText (.singleton on) (.singleton off) pixels).toList =
      pixels.map (mark on off) := by
    rw [rowText, String.toList_join, List.flatMap_map, List.map_eq_flatMap]
    exact congrArg (List.flatMap · pixels) (funext piece)
  rw [picture, String.toList_intercalate, lines, List.map_map]
  exact congrArg _ (List.map_congr_left fun y _ => line (fb.row y))

theorem splitOn_picture (hh : 1 ≤ height) {on off : Char} (on_solid : on ≠ '\n')
    (off_solid : off ≠ '\n') (fb : Framebuffer width height) :
    (fb.picture (.singleton on) (.singleton off)).toList.splitOn '\n' = fb.shownRows on off := by
  have solid : ∀ row ∈ fb.shownRows on off, '\n' ∉ row := by
    intro row mem newline
    obtain ⟨y, -, rfl⟩ := List.mem_map.mp mem
    obtain ⟨lit, -, shown⟩ := List.mem_map.mp newline
    cases lit with
    | true => exact on_solid shown
    | false => exact off_solid shown
  have nonempty : fb.shownRows on off ≠ [] := by
    rw [← List.length_pos_iff, shownRows, List.length_map, List.length_range]
    omega
  rw [toList_picture, List.splitOn_intercalate _ solid nonempty]

theorem flatten_shownRows (hw : 1 ≤ width) (hh : 1 ≤ height) (fb : Framebuffer width height)
    (on off : Char) : (fb.shownRows on off).flatten = fb.pixels.toList.map (mark on off) := by
  rw [shownRows, ← flatMap_row hw hh, List.map_flatMap, List.flatMap_def]

theorem count_intercalate {α : Type} [BEq α] [LawfulBEq α] {a s : α} (other : s ≠ a)
    (ls : List (List α)) : ([s].intercalate ls).count a = ls.flatten.count a := by
  induction ls with
  | nil => rfl
  | cons l ls ih =>
    cases ls with
    | nil => simp
    | cons next ls =>
      rw [List.intercalate_cons_cons, List.count_append, List.count_append, ih,
        List.flatten_cons (l := l), List.count_append, List.count_singleton,
        if_neg (by simpa using other), Nat.add_zero]

theorem count_picture (hw : 1 ≤ width) (hh : 1 ≤ height) {on off : Char} (distinct : on ≠ off)
    (on_solid : on ≠ '\n') (fb : Framebuffer width height) :
    (fb.picture (.singleton on) (.singleton off)).toList.count on = fb.litCount := by
  rw [toList_picture, count_intercalate on_solid.symm, flatten_shownRows hw hh, litCount,
    ← Vector.count_toList]
  exact List.count_map_of_injective _ _ (mark_injective distinct) true

theorem eq_of_picture (hw : 1 ≤ width) (hh : 1 ≤ height) {on off : Char} (distinct : on ≠ off)
    (on_solid : on ≠ '\n') (off_solid : off ≠ '\n') {fb fb' : Framebuffer width height}
    (same : fb.picture (.singleton on) (.singleton off) =
      fb'.picture (.singleton on) (.singleton off)) : fb.pixels = fb'.pixels := by
  have rows : (fb.picture (.singleton on) (.singleton off)).toList.splitOn '\n' =
      (fb'.picture (.singleton on) (.singleton off)).toList.splitOn '\n' := by
    rw [same]
  rw [splitOn_picture hh on_solid off_solid, splitOn_picture hh on_solid off_solid] at rows
  have all := congrArg List.flatten rows
  rw [flatten_shownRows hw hh, flatten_shownRows hw hh] at all
  exact Vector.toList_inj.mp (List.map_injective_iff.mpr (mark_injective distinct) all)

theorem getElem?_shownRows (hw : 1 ≤ width) (hh : 1 ≤ height) (fb : Framebuffer width height)
    (on off : Char) {x y : Nat} (right : x < width.toNat) (bottom : y < height.toNat) :
    (fb.shownRows on off)[y]?.bind (·[x]?) =
      some (mark on off (fb.pixel ⟨y * width.toNat + x, number_lt hw hh right bottom⟩)) := by
  rw [shownRows, List.getElem?_map, List.getElem?_range bottom, Option.map_some, Option.bind_some,
    List.getElem?_map, getElem?_row hw hh fb right bottom, Option.map_some]

/-! ### Positions of pixels -/

theorem number_natCast (hw : 1 ≤ width) (x y : Nat) :
    (y : Int) * width + x = (y * width.toNat + x : Nat) := by
  rw [Int.natCast_add, Int.natCast_mul, Int.toNat_of_nonneg (by omega)]

theorem position_number (hw : 1 ≤ width) (hh : 1 ≤ height)
    (fits : fitsWord (width * height) = true) {x y : Nat} (right : x < width.toNat)
    (bottom : y < height.toNat) : position (area width height) (y * width + x) =
      .ok ⟨y * width.toNat + x, number_lt hw hh right bottom⟩ := by
  have below := number_lt hw hh right bottom
  simp only [fitsWord, Bool.and_eq_true, decide_eq_true_eq] at fits
  rw [number_natCast hw]
  exact position_natCast below (by unfold area at below; omega)

theorem fitsWord_of_create [Heap] {wrap : Bool} {fb : Framebuffer width height}
    (created : create width height wrap = .ok fb) : fitsWord (width * height) = true := by
  cases fits : fitsWord (width * height) with
  | true => rfl
  | false =>
    rw [create, reserve, fits] at created
    cases created

/-! ### Any run of operations -/

theorem mem_ofSurface {byte : UInt8} (mem : byte ∈ (Raster.ofSurface fb).bytes) :
    byte = 0 ∨ byte = 1 := by
  obtain ⟨lit, -, rfl⟩ := List.mem_map.mp mem
  cases lit with
  | true => exact .inr rfl
  | false => exact .inl rfl

theorem pixel_shown (hw : 1 ≤ width) (hh : 1 ≤ height) (fits : fitsWord (width * height) = true)
    (fb : Framebuffer width height) (on off : Char) {x y : Nat} (right : x < width.toNat)
    (bottom : y < height.toNat) : ∃ lit, fb.get x y = .ok lit ∧
      (fb.shownRows on off)[y]?.bind (·[x]?) = some (mark on off lit) ∧
      ((Raster.ofSurface fb).perform (.get x y)).1 = .ok (.pixel (pixelByte lit)) ∧
      (Raster.ofSurface fb).bytes[y * width.toNat + x]? = some (pixelByte lit) := by
  let p : Fin (area width height) := ⟨y * width.toNat + x, number_lt hw hh right bottom⟩
  have got : fb.get x y = .ok (fb.pixel p) := by
    rw [get, position_number hw hh fits right bottom]
    rfl
  have answered : ((Raster.ofSurface fb).perform (.get x y)).1 =
      .ok (.pixel (pixelByte (fb.pixel p))) := by
    rw [Raster.perform_ofSurface hw hh fits, perform, got]
  exact ⟨fb.pixel p, got, getElem?_shownRows hw hh fb on off right bottom, answered,
    Raster.getElem?_ofSurface fb p⟩

/-- A surface held as bytes has a byte for each pixel, zero or one, whatever has been asked of it,
and its views are those of the surface `fb`. A picture of it with two characters has `height` lines
of `width` characters, which show pixel `(x, y)`, that is byte `y * width + x`, on line `y` at
column `x`; `on` stands in it as often as pixels are lit, and no surface with other pixels has the
same picture. Every surface that can be had fits a word (`fitsWord_of_create`). -/
theorem picture_shows_pixels (hw : 1 ≤ width) (hh : 1 ≤ height)
    (fits : fitsWord (width * height) = true) (wrap : Bool) (operations : List Operation)
    {on off : Char} (distinct : on ≠ off) (on_solid : on ≠ '\n') (off_solid : off ≠ '\n') :
    let drawn := answerAll perform (dark width height wrap) operations
    let held := answerAll Raster.perform (Raster.dark width height wrap) operations
    let fb := drawn.2
    let raster := held.2
    let picture := fb.picture (.singleton on) (.singleton off)
    let rows := picture.toList.splitOn '\n'
    held.1 = drawn.1 ∧
      (raster.bytes.length : Int) = width * height ∧
      (∀ byte ∈ raster.bytes, byte = 0 ∨ byte = 1) ∧
      raster.picture (.singleton on) (.singleton off) = picture ∧
      raster.litCount = fb.litCount ∧
      (rows.length : Int) = height ∧
      (∀ row ∈ rows, (row.length : Int) = width) ∧
      (∀ x y : Nat, (x : Int) < width → (y : Int) < height → ∃ lit, fb.get x y = .ok lit ∧
        rows[y]?.bind (·[x]?) = some (if lit then on else off) ∧
        (raster.perform (.get x y)).1 = .ok (.pixel (pixelByte lit)) ∧
        raster.bytes[y * width.toNat + x]? = some (pixelByte lit)) ∧
      picture.toList.count on = fb.litCount ∧
      ∀ fb' : Framebuffer width height,
        fb'.picture (.singleton on) (.singleton off) = picture → fb'.pixels = fb.pixels := by
  intro drawn held fb raster picture rows
  have lockstep : held = (drawn.1, Raster.ofSurface fb) :=
    Raster.answerAll_dark hw hh fits wrap operations
  have holds : raster = Raster.ofSurface fb := congrArg Prod.snd lockstep
  have shown : rows = fb.shownRows on off := splitOn_picture hh on_solid off_solid fb
  rw [holds, shown]
  refine ⟨congrArg Prod.fst lockstep, ?_, fun byte => mem_ofSurface,
    Raster.picture_ofSurface fb _ _, Raster.litCount_ofSurface fb, ?_, ?_, ?_,
    count_picture hw hh distinct on_solid fb,
    fun fb' => eq_of_picture hw hh distinct on_solid off_solid⟩
  · have positive : 0 ≤ width * height := Int.mul_nonneg (by omega) (by omega)
    rw [Raster.length_ofSurface]
    exact Int.toNat_of_nonneg positive
  · rw [shownRows, List.length_map, List.length_range]
    omega
  · intro row mem
    obtain ⟨y, within, rfl⟩ := List.mem_map.mp mem
    rw [List.length_map, length_row hw hh fb (List.mem_range.mp within)]
    omega
  · intro x y right bottom
    exact pixel_shown hw hh fits fb on off (by omega) (by omega)

/-- On a surface of three by two a pixel that is not there cannot be set, and a sprite wraps
around. -/
theorem picture_shows_pixels_after_failed_set :
    let operations := [.set 0 0 7, .set 0 2 1, .blit 2 1 [0xC0]]
    let drawn := answerAll perform (dark 3 2 true) operations
    let raster := (answerAll Raster.perform (Raster.dark 3 2 true) operations).2
    @create .unlimited 3 2 true = .ok (dark 3 2 true) ∧
    ((1 : Int) ≤ 3 ∧ (1 : Int) ≤ 2 ∧ '#' ≠ '.' ∧ '#' ≠ '\n' ∧ '.' ≠ '\n') ∧
    drawn.1 = [.ok .done, .error (.index .outOfRange), .ok (.collision false)] ∧
    raster.picture (.singleton '#') (.singleton '.') = "#..\n#.#" ∧
    raster.bytes.length = 6 ∧ (∀ byte ∈ raster.bytes, byte = 0 ∨ byte = 1) ∧
    (raster.perform (.get 2 1)).1 = .ok (.pixel 1) ∧ raster.bytes[5]? = some 1 ∧
    raster.litCount = 3 ∧
    ∀ fb : Framebuffer 3 2, fb.picture (.singleton '#') (.singleton '.') = "#..\n#.#" →
      fb.pixels = drawn.2.pixels := by
  intro operations drawn raster
  let _ : Heap := .unlimited
  have created : create 3 2 true = .ok (dark 3 2 true) := rfl
  have distinct : '#' ≠ '.' ∧ '#' ≠ '\n' ∧ '.' ≠ '\n' := by decide
  have picture : drawn.2.picture (.singleton '#') (.singleton '.') = "#..\n#.#" := by decide
  obtain ⟨-, length, bits, same, lit, -, -, shown, count, determined⟩ :=
    picture_shows_pixels (by decide) (by decide) (fitsWord_of_create created) true operations
      distinct.1 distinct.2.1 distinct.2.2
  obtain ⟨lit', got, -, answered, byte⟩ := shown 2 1 (by decide) (by decide)
  have corner : lit' = true := by
    have told : drawn.2.get 2 1 = .ok true := by decide
    exact Except.ok.inj (got.symm.trans told)
  subst corner
  refine ⟨created, ⟨by decide, by decide, distinct⟩, by decide, same.trans picture,
    Int.ofNat_inj.mp length, bits, answered, byte, ?_, fun fb => picture ▸ determined fb⟩
  rw [lit, ← count]
  decide

end Framebuffer

end ChipEight
