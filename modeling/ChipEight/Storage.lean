/-!
# Positions and sizes

A position in stored bytes may be counted from the end: `-1` is the last byte. `position` finds the
byte that an integer designates. Bytes are stored where there is memory for them, and how much of it
there is, is up to the host: `reserve` and `grow` ask its `Heap`.
-/

namespace ChipEight

/-- The least integer that is too large for a machine word. -/
def wordBound : Int := 0x8000000000000000

/-- Whether `z` fits a signed machine word. -/
def fitsWord (z : Int) : Bool := -wordBound ≤ z && z < wordBound

inductive IndexError where
  | outOfRange
  | tooLarge
  deriving DecidableEq, Repr

def IndexError.message : IndexError → String
  | .outOfRange => "bytearray index out of range"
  | .tooLarge => "cannot fit 'int' into an index-sized integer"

/-- The place among `size` that `i` designates; negative positions count from the end. -/
def position (size : Nat) (i : Int) : Except IndexError (Fin size) :=
  if !fitsWord i then .error .tooLarge
  else
    let j := if i < 0 then i + size else i
    if h : 0 ≤ j ∧ j < size then .ok ⟨j.toNat, by omega⟩ else .error .outOfRange

/-! ### Memory of the host -/

/-- The memory that a host has. What it gives hangs on what is asked for and on what is held. -/
class Heap where
  /-- Whether `n` bytes can be had beside the `held` bytes that are in use. -/
  gives (held n : Nat) : Bool
  /-- Whether `n` bytes that have been had can be put behind the `held` bytes in use. -/
  grows (held n : Nat) : Bool

namespace Heap

/-- The heap of a host that never runs out of memory. -/
@[reducible] def unlimited : Heap where
  gives _ _ := true
  grows _ _ := true

/-- The heap holds `size` bytes, in whatever pieces they are asked for. -/
def Holds [Heap] (size : Nat) : Prop :=
  ∀ held n, held + n ≤ size → gives held n = true ∧ grows held n = true

end Heap

inductive SizeError where
  | negative
  /-- The size does not fit a machine word. -/
  | tooLarge
  | exhausted
  deriving DecidableEq, Repr

def SizeError.message : SizeError → String
  | .negative => "negative count"
  | .tooLarge => "cannot fit 'int' into an index-sized integer"
  | .exhausted => ""

/-- The size `z` as a number of bytes that can be had beside `held` bytes. -/
def reserve [Heap] (held : Nat) (z : Int) : Except SizeError Nat :=
  if !fitsWord z then .error .tooLarge
  else if z < 0 then .error .negative
  else if Heap.gives held z.toNat then .ok z.toNat
  else .error .exhausted

/-- Puts `n` bytes that have been had behind `held` bytes. -/
def grow [Heap] (held n : Nat) : Except SizeError Unit :=
  if Heap.grows held n then .ok () else .error .exhausted

end ChipEight
