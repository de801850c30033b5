import ChipEight.Instruction.Encoding
import ChipEight.Storage

/-!
# Disassembly

Stored bytes read as instructions, word by word. `rowsFrom` stops after the first word that ends a
program; `rowsUpTo` stops only at the end of memory.
-/

namespace ChipEight.Disassembly

open Text

def byteAt (bytes : Array UInt8) (i : Int) : Except IndexError UInt8 :=
  (position bytes.size i).map fun (j : Fin bytes.size) => bytes[j]

/-- The instruction whose two bytes are at positions `i` and `j`. -/
def instructionAt (bytes : Array UInt8) (i j : Int) : Except IndexError Instruction := do
  let b₀ ← byteAt bytes i
  let b₁ ← byteAt bytes j
  return decodeBytes b₀ b₁

/-- The text of the instruction at an address, modulo the size of memory. -/
def textAt (bytes : Array UInt8) (a : Int) : Except IndexError String :=
  (instructionAt bytes (a % 4096) ((a + 1) % 4096)).map Instruction.text

structure Row where
  address : Int
  first : UInt8
  second : UInt8
  deriving DecidableEq, Repr

namespace Row

def instruction (row : Row) : Instruction := decodeBytes row.first row.second

def text (row : Row) : String :=
  s!"{addressHex row.address}: {byteHex row.first} {byteHex row.second}  {row.instruction.text}"

def line (row : Row) : String := "  " ++ row.text

/-- The row as a line that marks the address `pc`. -/
def markedLine (pc : Int) (row : Row) : String :=
  (if row.address = pc then "  >>> " else "      ") ++ row.text

end Row

def rowAt (bytes : Array UInt8) (a : Int) : Except IndexError Row := do
  let first ← byteAt bytes a
  let second ← byteAt bytes (a + 1)
  return ⟨a, first, second⟩

/-- At most `n` rows from `a` on, up to and including the end of the program. -/
def rowsFrom (bytes : Array UInt8) (n : Nat) (a : Int) : Except IndexError (List Row) :=
  match n with
  | 0 => .ok []
  | n + 1 => do
    let row ← rowAt bytes a
    if row.instruction = .finish then return [row]
    let rows ← rowsFrom bytes n (a + 2)
    return row :: rows

def lastWord : Int := 4094

/-- The rows from `start` to `stop` inclusive, up to the end of the program. -/
def rowsBetween (bytes : Array UInt8) (start stop : Int) : Except IndexError (List Row) :=
  rowsFrom bytes ((stop - start + 2) / 2).toNat start

/-- At most `n` rows from `a` on, up to the last word of memory. -/
def rowsUpTo (bytes : Array UInt8) (n : Nat) (a : Int) : Except IndexError (List Row) :=
  match n with
  | 0 => .ok []
  | n + 1 =>
    if lastWord < a then .ok []
    else do
      let row ← rowAt bytes a
      let rows ← rowsUpTo bytes n (a + 2)
      return row :: rows

end ChipEight.Disassembly
