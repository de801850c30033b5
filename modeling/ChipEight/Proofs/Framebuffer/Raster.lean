import ChipEight.Proofs.Framebuffer.Blit
import ChipEight.Proofs.Storage

/-!
# Surfaces held as bytes

A raster is a surface held as a run of bytes, to which nothing gives a length and of which nothing
says that each is zero or one. Whatever is done to it from the start on, write by write and with
checks that may break off the work, it goes in step with a surface (`perform_ofSurface`,
`answerAll_dark`): there is a byte for each pixel, one if the pixel is lit and zero if not.
-/

namespace ChipEight

def pixelByte (lit : Bool) : UInt8 := if lit then 1 else 0

namespace Framebuffer

variable {width height : Int}

/-! ### Operations -/

/-- What can be asked of a surface. -/
inductive Operation where
  | clear
  | fill
  | randomize (g : Random.Generator)
  /-- Any value but zero lights the pixel. -/
  | set (x y value : Int)
  | get (x y : Int)
  | blit (x y : Int) (sprite : List UInt8)

inductive Failure where
  | index (error : IndexError)
  | draw (error : DrawError)
  deriving DecidableEq, Repr

inductive Answer where
  | done
  | pixel (byte : UInt8)
  | collision (darkened : Bool)
  deriving DecidableEq, Repr

/-- What an operation answers, and the surface afterwards. -/
def perform (fb : Framebuffer width height) :
    Operation → Except Failure Answer × Framebuffer width height
  | .clear => (.ok .done, fb.clear)
  | .fill => (.ok .done, fb.fill)
  | .randomize g => (.ok .done, (fb.randomize g).1)
  | .set x y value =>
    match fb.set x y (value != 0) with
    | .ok fb => (.ok .done, fb)
    | .error e => (.error (.index e), fb)
  | .get x y =>
    match fb.get x y with
    | .ok lit => (.ok (.pixel (pixelByte lit)), fb)
    | .error e => (.error (.index e), fb)
  | .blit x y sprite =>
    match fb.draw x y sprite with
    | .ok (fb, darkened) => (.ok (.collision darkened), fb)
    | .error e => (.error (.draw e), fb)

/-- What is answered to operations, one after the other, and what is left in the end. -/
def answerAll {σ : Type} (perform : σ → Operation → Except Failure Answer × σ) (s : σ) :
    List Operation → List (Except Failure Answer) × σ
  | [] => ([], s)
  | operation :: rest =>
    let (answer, s) := perform s operation
    let (answers, s) := answerAll perform s rest
    (answer :: answers, s)

/-- What goes in step at each operation goes in step all along. -/
theorem answerAll_hom {σ τ : Type} {perform : σ → Operation → Except Failure Answer × σ}
    {perform' : τ → Operation → Except Failure Answer × τ} {f : σ → τ}
    (step : ∀ s operation,
      perform' (f s) operation = ((perform s operation).1, f (perform s operation).2))
    (s : σ) (operations : List Operation) :
    answerAll perform' (f s) operations =
      ((answerAll perform s operations).1, f (answerAll perform s operations).2) := by
  induction operations generalizing s with
  | nil => rfl
  | cons operation rest ih =>
    rw [answerAll, answerAll, step]
    dsimp only
    rw [ih]

end Framebuffer

open Framebuffer

/-- A surface held as bytes. -/
structure Raster (width height : Int) where
  wrap : Bool
  bytes : List UInt8
  deriving DecidableEq, Repr

namespace Raster

variable {width height : Int}

def dark (width height : Int) (wrap : Bool) : Raster width height :=
  ⟨wrap, List.replicate (area width height) 0⟩

/-- Work on a raster. When it fails, what has been written stays written. -/
abbrev Work (width height : Int) := EStateM Failure (Raster width height)

/-- Puts equal bytes, as many as there are, in the place of all. -/
def paint (byte : UInt8) : Work width height Unit :=
  modify fun r =>
    { r with bytes := splice r.bytes 0 r.bytes.length (List.replicate r.bytes.length byte) }

def read (i : Int) : Work width height UInt8 := fun r =>
  match position r.bytes.length i with
  | .ok j => .ok r.bytes[j] r
  | .error e => .error (.index e) r

def write (i : Int) (byte : UInt8) : Work width height Unit := fun r =>
  match position r.bytes.length i with
  | .ok j => .ok () { r with bytes := r.bytes.set j byte }
  | .error e => .error (.index e) r

def randomize (g : Random.Generator) : Work width height Unit :=
  modify fun r => { r with bytes := (Nat.fold r.bytes.length
    (fun i _ state => (state.1.set i (pixelByte state.2.bit.1), state.2.bit.2)) (r.bytes, g)).1 }

/-- The number of the pixel at which a sprite pixel at `(x, y)` falls, or -1 if it falls off. A
number that has been wrapped around is not checked. -/
def offset (x y : Int) : Work width height Int := fun r =>
  if r.wrap then
    if height = 0 ∨ width = 0 then .error (.draw .zeroModulus) r
    else .ok (y.fmod height * width + x.fmod width) r
  else
    let i := y * width + x
    .ok (if 0 ≤ i ∧ i < r.bytes.length then i else -1) r

/-- Flips the byte under a set bit of a sprite at `(x, y)`, if there is one. -/
def flipUnder (x y : Int) (darkened : Bool) (bit : Nat × Nat) : Work width height Bool := do
  let i ← offset (x + bit.1) (y + bit.2)
  if i < 0 then return darkened
  else
    let old ← read i
    write i (old ^^^ 1)
    return darkened || old != 0

def work : Operation → Work width height Answer
  | .clear => do
    paint 0
    return .done
  | .fill => do
    paint 1
    return .done
  | .randomize g => do
    randomize g
    return .done
  | .set x y value => do
    write (y * width + x) (if value = 0 then 0 else 1)
    return .done
  | .get x y => do
    return .pixel (← read (y * width + x))
  | .blit x y sprite => do
    return .collision (← (setBits sprite).foldlM (flipUnder x y) false)

/-- What an operation answers, and the raster that it leaves. -/
def perform (r : Raster width height) (operation : Operation) :
    Except Failure Answer × Raster width height :=
  match (work operation).run r with
  | .ok answer r => (.ok answer, r)
  | .error e r => (.error e, r)

/-! ### In step with a surface -/

variable {fb : Framebuffer width height}

/-- A surface as it is held. -/
def ofSurface (fb : Framebuffer width height) : Raster width height :=
  ⟨fb.wrap, fb.pixels.toList.map pixelByte⟩

theorem length_ofSurface (fb : Framebuffer width height) :
    (ofSurface fb).bytes.length = area width height := by
  rw [ofSurface, List.length_map, Vector.length_toList]

theorem ofSurface_dark (wrap : Bool) :
    ofSurface (Framebuffer.dark width height wrap) = dark width height wrap := by
  rw [ofSurface, Framebuffer.dark, Vector.toList_replicate, List.map_replicate]
  rfl

theorem getElem?_ofSurface (fb : Framebuffer width height) (p : Fin (area width height)) :
    (ofSurface fb).bytes[p.val]? = some (pixelByte (fb.pixel p)) := by
  rw [ofSurface, List.getElem?_map, Vector.getElem?_toList, Vector.getElem?_eq_getElem p.isLt]
  rfl

theorem ofSurface_putPixel (fb : Framebuffer width height) (p : Fin (area width height))
    (lit : Bool) : ofSurface (fb.putPixel p lit) =
      { ofSurface fb with bytes := (ofSurface fb).bytes.set p (pixelByte lit) } := by
  unfold ofSurface putPixel
  dsimp only
  rw [Vector.toList_set, List.map_set]

theorem position_congr {m n : Nat} (same : m = n) (i : Int) :
    position m i = (position n i).map (Fin.cast same.symm) := by
  subst same
  cases position m i <;> rfl

theorem read_ofSurface (fb : Framebuffer width height) (i : Int) : read i (ofSurface fb) =
    match position (area width height) i with
    | .ok p => .ok (pixelByte (fb.pixel p)) (ofSurface fb)
    | .error e => .error (.index e) (ofSurface fb) := by
  rw [read, position_congr (length_ofSurface fb)]
  cases position (area width height) i with
  | error e => rfl
  | ok p =>
    have byte := getElem?_ofSurface fb p
    obtain ⟨_, here⟩ := List.getElem?_eq_some_iff.mp byte
    exact congrArg (EStateM.Result.ok · (ofSurface fb)) here

theorem write_ofSurface (fb : Framebuffer width height) (i : Int) (lit : Bool) :
    write i (pixelByte lit) (ofSurface fb) =
      match position (area width height) i with
      | .ok p => .ok () (ofSurface (fb.putPixel p lit))
      | .error e => .error (.index e) (ofSurface fb) := by
  rw [write, position_congr (length_ofSurface fb)]
  cases position (area width height) i with
  | error e => rfl
  | ok p => exact congrArg (EStateM.Result.ok ()) (ofSurface_putPixel fb p lit).symm

theorem number_cell? (fb : Framebuffer width height) (x y : Int) :
    (match fb.cell? x y with | some p => (p.val : Int) | none => -1) =
      if 0 ≤ fb.offset x y ∧ fb.offset x y < area width height then fb.offset x y else -1 := by
  unfold cell?
  by_cases inside : 0 ≤ fb.offset x y ∧ fb.offset x y < area width height
  · simp only [dif_pos inside, if_pos inside]
    exact Int.toNat_of_nonneg inside.1
  · simp only [dif_neg inside, if_neg inside]

theorem offset_ofSurface (hw : 1 ≤ width) (hh : 1 ≤ height) (fb : Framebuffer width height)
    (x y : Int) : offset x y (ofSurface fb) =
      .ok (match fb.cell? x y with | some p => (p.val : Int) | none => -1) (ofSurface fb) := by
  have same : (ofSurface fb).wrap = fb.wrap := rfl
  have number : fb.offset x y =
      if fb.wrap then y.fmod height * width + x.fmod width else y * width + x := rfl
  rw [number_cell?, offset, same, length_ofSurface]
  cases wrap : fb.wrap with
  | true =>
    have edges : ¬(height = 0 ∨ width = 0) := by omega
    obtain ⟨lower, upper⟩ := offset_bounds wrap (by omega) (by omega) x y
    have inside : 0 ≤ fb.offset x y ∧ fb.offset x y < area width height := by
      rw [Int.mul_comm] at upper
      exact ⟨lower, by unfold area; omega⟩
    rw [wrap, if_pos rfl] at number
    rw [if_pos rfl, if_neg edges, if_pos inside, number]
  | false =>
    rw [wrap, if_neg Bool.false_ne_true] at number
    rw [if_neg Bool.false_ne_true, number]

theorem bind_of_ok {α β : Type} {x : Work width height α} {f : α → Work width height β}
    {r r' : Raster width height} {a : α} (goes : x r = .ok a r') : (x >>= f) r = f a r' := by
  show EStateM.bind x f r = f a r'
  rw [EStateM.bind, goes]

theorem bind_of_error {α β : Type} {x : Work width height α} {f : α → Work width height β}
    {r r' : Raster width height} {e : Failure} (fails : x r = .error e r') :
    (x >>= f) r = .error e r' := by
  show EStateM.bind x f r = .error e r'
  rw [EStateM.bind, fails]

theorem pixelByte_not (lit : Bool) : pixelByte lit ^^^ 1 = pixelByte (!lit) := by
  cases lit <;> rfl

theorem pixelByte_ne_zero (lit : Bool) : (pixelByte lit != 0) = lit := by
  cases lit <;> rfl

theorem flipUnder_ofSurface (hw : 1 ≤ width) (hh : 1 ≤ height)
    (fits : fitsWord (width * height) = true) (state : Framebuffer width height × Bool) (x y : Int)
    (bit : Nat × Nat) : flipUnder x y state.2 bit (ofSurface state.1) =
      let flipped := flip state (state.1.cell? (x + bit.1) (y + bit.2))
      .ok flipped.2 (ofSurface flipped.1) := by
  rw [flipUnder, bind_of_ok (offset_ofSurface hw hh state.1 _ _)]
  cases cell : state.1.cell? (x + bit.1) (y + bit.2) with
  | none => rfl
  | some p =>
    have not_negative : ¬(p.val : Int) < 0 := by omega
    -- The number is not negative, so it is not counted from the end.
    have place : position (area width height) p.val = .ok p := by
      have below := p.isLt
      simp only [fitsWord, Bool.and_eq_true, decide_eq_true_eq] at fits
      exact position_natCast below (by unfold area at below; omega)
    have old : read p.val (ofSurface state.1) =
        .ok (pixelByte (state.1.pixel p)) (ofSurface state.1) := by
      rw [read_ofSurface, place]
    have new : write p.val (pixelByte (state.1.pixel p) ^^^ 1) (ofSurface state.1) =
        .ok () (ofSurface (state.1.putPixel p !state.1.pixel p)) := by
      rw [pixelByte_not, write_ofSurface, place]
    dsimp only
    rw [if_neg not_negative, bind_of_ok old, bind_of_ok new, pixelByte_ne_zero]
    rfl

theorem foldlM_flipUnder (hw : 1 ≤ width) (hh : 1 ≤ height)
    (fits : fitsWord (width * height) = true) (fb : Framebuffer width height) (x y : Int)
    (bits : List (Nat × Nat)) (state : Framebuffer width height × Bool)
    (same : state.1.wrap = fb.wrap) :
    bits.foldlM (flipUnder x y) state.2 (ofSurface state.1) =
      let flipped :=
        bits.foldl (fun state bit => flip state (fb.cell? (x + bit.1) (y + bit.2))) state
      .ok flipped.2 (ofSurface flipped.1) := by
  induction bits generalizing state with
  | nil => rfl
  | cons bit bits ih =>
    -- The pixels under the sprite are those of the first surface: a flip leaves `wrap` as it is.
    rw [List.foldlM_cons, bind_of_ok (flipUnder_ofSurface hw hh fits state x y bit),
      cell?_congr same, List.foldl_cons]
    exact ih _ ((wrap_flip _ _).trans same)

theorem fold_hom {σ τ : Type} (f : σ → τ) {n : Nat} (step : (i : Nat) → i < n → σ → σ)
    (step' : (i : Nat) → i < n → τ → τ) (each : ∀ i h s, f (step i h s) = step' i h (f s)) (s : σ) :
    f (Nat.fold n step s) = Nat.fold n step' (f s) := by
  induction n with
  | zero => rfl
  | succ n ih =>
    rw [Nat.fold_succ, Nat.fold_succ, each, ih]
    intro i h s
    exact each i _ s

theorem randomize_ofSurface (fb : Framebuffer width height) (g : Random.Generator) :
    randomize g (ofSurface fb) = .ok () (ofSurface (fb.randomize g).1) := by
  have bits := fold_hom (fun state : Vector Bool (area width height) × Random.Generator =>
      (state.1.toList.map pixelByte, state.2))
    (fun i _ state => (state.1.set i state.2.bit.1, state.2.bit.2))
    (fun i _ state => (state.1.set i (pixelByte state.2.bit.1), state.2.bit.2))
    (fun i inside state => by rw [Vector.toList_set, List.map_set]) (fb.pixels, g)
  have run : randomize g (ofSurface fb) = .ok () { ofSurface fb with
      bytes := (Nat.fold (ofSurface fb).bytes.length (fun i _ state =>
        (state.1.set i (pixelByte state.2.bit.1), state.2.bit.2))
        ((ofSurface fb).bytes, g)).1 } := rfl
  rw [run, length_ofSurface]
  exact congrArg (fun bytes => EStateM.Result.ok () (⟨fb.wrap, bytes⟩ : Raster width height))
    (congrArg Prod.fst bits).symm

theorem paint_ofSurface (fb : Framebuffer width height) (lit : Bool) :
    paint (pixelByte lit) (ofSurface fb) =
      .ok () (ofSurface { fb with pixels := Vector.replicate _ lit }) := by
  have run : paint (pixelByte lit) (ofSurface fb) = .ok () { ofSurface fb with
      bytes := splice (ofSurface fb).bytes 0 (ofSurface fb).bytes.length
        (List.replicate (ofSurface fb).bytes.length (pixelByte lit)) } := rfl
  rw [run, splice_all, length_ofSurface]
  unfold ofSurface
  dsimp only
  rw [Vector.toList_replicate, List.map_replicate]

theorem perform_of_ok {operation : Operation} {answer : Answer} {r r' : Raster width height}
    (goes : work operation r = .ok answer r') : r.perform operation = (.ok answer, r') := by
  rw [perform, EStateM.run, goes]

theorem perform_of_error {operation : Operation} {e : Failure} {r r' : Raster width height}
    (fails : work operation r = .error e r') : r.perform operation = (.error e, r') := by
  rw [perform, EStateM.run, fails]

/-- On a raster that holds a surface each operation does what it does to the surface. -/
theorem perform_ofSurface (hw : 1 ≤ width) (hh : 1 ≤ height)
    (fits : fitsWord (width * height) = true) (fb : Framebuffer width height)
    (operation : Operation) : (ofSurface fb).perform operation =
      ((fb.perform operation).1, ofSurface (fb.perform operation).2) := by
  cases operation with
  | clear => exact perform_of_ok (bind_of_ok (paint_ofSurface fb false))
  | fill => exact perform_of_ok (bind_of_ok (paint_ofSurface fb true))
  | randomize g => exact perform_of_ok (bind_of_ok (randomize_ofSurface fb g))
  | set x y value =>
    have stored : (if value = 0 then 0 else 1) = pixelByte (value != 0) := by
      by_cases zero : value = 0
      · rw [if_pos zero, zero]
        rfl
      · rw [if_neg zero, bne_iff_ne.mpr zero]
        rfl
    have written := write_ofSurface fb (y * width + x) (value != 0)
    rw [← stored] at written
    rw [Framebuffer.perform, Framebuffer.set]
    cases place : position (area width height) (y * width + x) with
    | ok p =>
      rw [place] at written
      exact perform_of_ok (bind_of_ok written)
    | error e =>
      rw [place] at written
      exact perform_of_error (bind_of_error written)
  | get x y =>
    have byte := read_ofSurface fb (y * width + x)
    rw [Framebuffer.perform, Framebuffer.get]
    cases place : position (area width height) (y * width + x) with
    | ok p =>
      rw [place] at byte
      exact perform_of_ok (bind_of_ok byte)
    | error e =>
      rw [place] at byte
      exact perform_of_error (bind_of_error byte)
  | blit x y sprite =>
    have drawn : fb.draw x y sprite = .ok (fb.blit x y sprite) :=
      fb.draw_eq_blit x y sprite (by omega) (by omega)
    have flipped := foldlM_flipUnder hw hh fits fb x y (setBits sprite) (fb, false) rfl
    rw [Framebuffer.perform, drawn]
    exact perform_of_ok (bind_of_ok flipped)

/-- From the start on, a raster holds the surface to which the same is done. -/
theorem answerAll_dark (hw : 1 ≤ width) (hh : 1 ≤ height)
    (fits : fitsWord (width * height) = true) (wrap : Bool) (operations : List Operation) :
    let drawn := answerAll Framebuffer.perform (Framebuffer.dark width height wrap) operations
    answerAll perform (dark width height wrap) operations = (drawn.1, ofSurface drawn.2) := by
  intro drawn
  rw [← ofSurface_dark]
  exact answerAll_hom (perform_ofSurface hw hh fits) _ operations

end Raster

end ChipEight
