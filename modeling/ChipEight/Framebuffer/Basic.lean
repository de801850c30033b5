import ChipEight.Random.Twister
import ChipEight.Storage

/-!
# Framebuffers

A monochrome surface, its pixels in one row-major run: pixel `(x, y)` is number `y * width + x`. The
type fixes the number of pixels, so no operation can change it. A picture of a surface has one line
for each row of pixels and one piece of text for each pixel.

A sprite is a list of bytes, one for each row, whose bits are pixels from left to right. `blit`
flips the pixels under its set bits and says whether it darkened one.
-/

namespace ChipEight

abbrev area (width height : Int) : Nat := (width * height).toNat

/-- A surface of `width` by `height` pixels, each lit or dark. -/
structure Framebuffer (width height : Int) where
  /-- Sprites that leave one edge enter at the opposite one. -/
  wrap : Bool
  pixels : Vector Bool (area width height)
  deriving DecidableEq

namespace Framebuffer

variable {width height : Int}

def dark (width height : Int) (wrap : Bool) : Framebuffer width height :=
  ⟨wrap, Vector.replicate _ false⟩

/-- A dark surface, if so many pixels can be had. -/
def create [Heap] (width height : Int) (wrap : Bool) :
    Except SizeError (Framebuffer width height) :=
  (reserve 0 (width * height)).map fun _ => dark width height wrap

/-! ### The whole surface -/

def clear (fb : Framebuffer width height) : Framebuffer width height :=
  { fb with pixels := Vector.replicate _ false }

def fill (fb : Framebuffer width height) : Framebuffer width height :=
  { fb with pixels := Vector.replicate _ true }

/-- One random bit for each pixel, in order. -/
def randomize (fb : Framebuffer width height) (g : Random.Generator) :
    Framebuffer width height × Random.Generator :=
  let (pixels, g) := Nat.fold (area width height)
    (fun i _ (pixels, g) =>
      let (lit, g) := g.bit
      (pixels.set i lit, g))
    (fb.pixels, g)
  ({ fb with pixels }, g)

def litCount (fb : Framebuffer width height) : Nat := fb.pixels.count true

/-! ### Single pixels -/

def pixel (fb : Framebuffer width height) (i : Fin (area width height)) : Bool := fb.pixels[i]

def putPixel (fb : Framebuffer width height) (i : Fin (area width height)) (lit : Bool) :
    Framebuffer width height :=
  { fb with pixels := fb.pixels.set i lit }

/-- The pixel at `(x, y)`. A negative number of a pixel counts from the end. -/
def get (fb : Framebuffer width height) (x y : Int) : Except IndexError Bool :=
  (position (area width height) (y * width + x)).map fb.pixel

def set (fb : Framebuffer width height) (x y : Int) (lit : Bool) :
    Except IndexError (Framebuffer width height) :=
  (position (area width height) (y * width + x)).map fun i => fb.putPixel i lit

/-! ### Pictures -/

def row (fb : Framebuffer width height) (y : Nat) : List Bool :=
  (fb.pixels.toArray.extract (y * width.toNat) ((y + 1) * width.toNat)).toList

def rowText (on off : String) (pixels : List Bool) : String :=
  String.join (pixels.map fun lit => if lit then on else off)

def lines (fb : Framebuffer width height) (on off : String) : List String :=
  (List.range height.toNat).map fun y => rowText on off (fb.row y)

def picture (fb : Framebuffer width height) (on off : String) : String :=
  "\n".intercalate (fb.lines on off)

def plainPicture (fb : Framebuffer width height) : String := fb.picture "#" "."

end Framebuffer

/-! ### Sprites -/

/-- Whether bit `col` of a row is set, the leftmost bit being number zero. -/
def rowBit (row : UInt8) (col : Nat) : Bool := row.toNat.testBit (7 - col)

/-- Column and row of the set bits of a sprite, row by row and from left to right. -/
def setBits (sprite : List UInt8) : List (Nat × Nat) :=
  sprite.zipIdx.flatMap fun (row, y) => ((List.range 8).filter (rowBit row)).map (·, y)

inductive DrawError where
  /-- A coordinate is taken modulo an edge of length zero. -/
  | zeroModulus
  deriving DecidableEq, Repr

def DrawError.message : DrawError → String
  | .zeroModulus => "integer modulo by zero"

namespace Framebuffer

variable {width height : Int}

/-- The number of the pixel at which a sprite pixel at `(x, y)` falls, before any check. -/
def offset (fb : Framebuffer width height) (x y : Int) : Int :=
  if fb.wrap then y.fmod height * width + x.fmod width else y * width + x

/-- The pixel at which a sprite pixel at `(x, y)` falls, if it falls on the surface. -/
def cell? (fb : Framebuffer width height) (x y : Int) : Option (Fin (area width height)) :=
  let i := fb.offset x y
  if h : 0 ≤ i ∧ i < area width height then some ⟨i.toNat, by omega⟩ else none

/-- Flips one pixel, if there is one. The flag tells whether a lit pixel was darkened before or is
darkened now. -/
def flip (state : Framebuffer width height × Bool) (i? : Option (Fin (area width height))) :
    Framebuffer width height × Bool :=
  match i? with
  | none => state
  | some i =>
    let (fb, collision) := state
    let lit := fb.pixel i
    (fb.putPixel i (!lit), collision || lit)

/-- Flips the pixels under the set bits of `sprite`, its upper left corner at `(x, y)`, and says
whether a lit pixel was darkened. -/
def blit (fb : Framebuffer width height) (x y : Int) (sprite : List UInt8) :
    Framebuffer width height × Bool :=
  (setBits sprite).foldl (fun state (col, row) => flip state (fb.cell? (x + col) (y + row)))
    (fb, false)

/-- Whether a set bit of `sprite` would wrap around an edge of length zero. -/
def wrapsAtZero (fb : Framebuffer width height) (sprite : List UInt8) : Bool :=
  fb.wrap && (width == 0 || height == 0) && sprite.any (· != 0)

/-- `blit` on a surface of any size, which may have no edges to wrap around. -/
def draw (fb : Framebuffer width height) (x y : Int) (sprite : List UInt8) :
    Except DrawError (Framebuffer width height × Bool) :=
  if fb.wrapsAtZero sprite then .error .zeroModulus else .ok (fb.blit x y sprite)

theorem draw_eq_blit (fb : Framebuffer width height) (x y : Int) (sprite : List UInt8)
    (hw : width ≠ 0) (hh : height ≠ 0) : fb.draw x y sprite = .ok (fb.blit x y sprite) := by
  simp [draw, wrapsAtZero, hw, hh]

end Framebuffer

end ChipEight
