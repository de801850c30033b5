import ChipEight.Instruction.Basic

/-!
# Memory

Four thousand and ninety-six bytes. The first 512 belong to the machine and hold the glyphs of the
hexadecimal digits; programs are loaded above them. Addresses wrap around at the end.
-/

namespace ChipEight

abbrev Memory := Vector UInt8 4096

def programStart : Nat := 0x200

/-- The number of bytes from `programStart` to the end. -/
def programSpace : Nat := 4096 - programStart

def glyphStart : Nat := 0x050

/-- The glyphs of the digits `0` to `F`, four by five pixels each. -/
def glyphs : Array UInt8 := #[
  0xF0, 0x90, 0x90, 0x90, 0xF0,
  0x20, 0x60, 0x20, 0x20, 0x70,
  0xF0, 0x10, 0xF0, 0x80, 0xF0,
  0xF0, 0x10, 0xF0, 0x10, 0xF0,
  0x90, 0x90, 0xF0, 0x10, 0x10,
  0xF0, 0x80, 0xF0, 0x10, 0xF0,
  0xF0, 0x80, 0xF0, 0x90, 0xF0,
  0xF0, 0x10, 0x20, 0x40, 0x40,
  0xF0, 0x90, 0xF0, 0x90, 0xF0,
  0xF0, 0x90, 0xF0, 0x10, 0xF0,
  0xF0, 0x90, 0xF0, 0x90, 0x90,
  0xE0, 0x90, 0xE0, 0x90, 0xE0,
  0xF0, 0x80, 0x80, 0x80, 0xF0,
  0xE0, 0x90, 0x90, 0x90, 0xE0,
  0xF0, 0x80, 0xF0, 0x80, 0xF0,
  0xF0, 0x80, 0xF0, 0x80, 0x80]

/-- The address that an integer designates, modulo the size of memory. -/
def wrapAddress (a : Int) : Address := ⟨(a % 4096).toNat, by omega⟩

namespace Memory

def initial : Memory :=
  Vector.ofFn fun a => if a < glyphStart then 0 else glyphs.getD (a - glyphStart) 0

def read (m : Memory) (a : Int) : UInt8 := m[wrapAddress a]

def readBytes (m : Memory) (a : Int) (n : Nat) : List UInt8 :=
  (List.range n).map fun (k : Nat) => m.read (a + k)

/-- Writes bytes from `a` on, the later over the earlier where they come around to one address. -/
def writeBytes (m : Memory) (a : Int) : List UInt8 → Memory
  | [] => m
  | b :: bs => writeBytes (m.set (wrapAddress a) b) (a + 1) bs

/-- The number of bytes of an image that fit in the program space. -/
def storedSize (image : Array UInt8) : Nat := min image.size programSpace

/-- Replaces the program space by an image and zeros after it. What does not fit is dropped. -/
def load (m : Memory) (image : Array UInt8) : Memory :=
  Vector.ofFn fun a => if a < programStart then m[a] else image.getD (a - programStart) 0

end Memory

end ChipEight
