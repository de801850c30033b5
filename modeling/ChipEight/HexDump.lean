import ChipEight.Disassembly

/-!
# Hex dumps

Stored bytes sixteen to a line: the address, the bytes in base sixteen in two groups of eight, and
the same bytes as characters. The last line is filled up with blanks.
-/

namespace ChipEight.HexDump

open Text

def rowSize : Nat := 16

/-- A line of the dump; a place past the end of the dump holds no byte. -/
structure Row where
  address : Int
  cells : List (Option UInt8)
  deriving DecidableEq, Repr

def cellHex : Option UInt8 → String
  | some b => byteHex b
  | none => "  "

/-- A byte in the column of characters: itself if it is printable ASCII. -/
def cellChar : Option UInt8 → Char
  | some b => if 0x20 ≤ b.toNat ∧ b.toNat < 0x7F then Char.ofNat b.toNat else '.'
  | none => ' '

def Row.line (row : Row) : String :=
  let hexes := row.cells.map cellHex
  "  " ++ addressHex row.address ++ ": " ++
    " ".intercalate (hexes.take 8) ++ "  " ++ " ".intercalate (hexes.drop 8) ++
    "  |" ++ String.ofList (row.cells.map cellChar) ++ "|"

/-- The place of a line at position `i`, if that lies before `stop`. -/
def cellAt (bytes : Array UInt8) (stop i : Int) : Except IndexError (Option UInt8) :=
  if i < stop then (Disassembly.byteAt bytes i).map some else .ok none

def rowAt (bytes : Array UInt8) (stop a : Int) : Except IndexError Row := do
  let cells ← (List.range rowSize).mapM fun (k : Nat) => cellAt bytes stop (a + k)
  return ⟨a, cells⟩

def rowsFrom (bytes : Array UInt8) (stop : Int) (n : Nat) (a : Int) :
    Except IndexError (List Row) :=
  match n with
  | 0 => .ok []
  | n + 1 => do
    let row ← rowAt bytes stop a
    let rows ← rowsFrom bytes stop n (a + rowSize)
    return row :: rows

/-- The lines for `count` bytes from `a` on, cut off at the end of the bytes. -/
def rows (bytes : Array UInt8) (a count : Int) : Except IndexError (List Row) :=
  let stop := min (a + count) bytes.size
  rowsFrom bytes stop ((stop - a + 15) / 16).toNat a

def lines (bytes : Array UInt8) (a count : Int) : Except IndexError (List String) :=
  (rows bytes a count).map fun rs => rs.map Row.line

end ChipEight.HexDump
