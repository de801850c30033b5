import ChipEight.Assembly.Layout

/-!
# Programs

The second pass: with all labels known, every row of a layout yields its bytes. `assemble` goes from
source text to a program, whose `image` is what a machine loads and whose `listing` shows each row
with its address, its first bytes and its text, and each label above the first row at its address.
-/

namespace ChipEight.Assembly

open Text

/-- The bytes of a row; the padding of an origin is kept as its length. -/
inductive Content where
  | padding (n : Nat)
  | bytes (bs : List UInt8)
  deriving DecidableEq, Repr

namespace Content

def toList : Content → List UInt8
  | padding n => List.replicate n 0
  | bytes bs => bs

def size : Content → Nat
  | padding n => n
  | bytes bs => bs.length

end Content

def wordBytes (w : UInt16) : List UInt8 := [firstByte w, secondByte w]

/-- The bytes of a statement that takes operands. -/
def Statement.encode (labels : Labels) : Statement → Except Cause (List UInt8)
  | .origin _ => .ok []
  | .bytes operands => operands.mapM (byte labels)
  | .words operands => (operands.mapM (word labels)).map fun ws => ws.flatMap wordBytes
  | .instruction m operands => (m.instruction labels operands).map fun i => wordBytes i.encode

structure Piece where
  row : Row
  content : Content
  deriving DecidableEq, Repr

namespace Row

section

variable [Heap] (base : Int)

/-- The number of bytes before the row in a program for the address `base`. -/
def offset (row : Row) : Nat := (row.address - base).toNat

/-- What the row emits. All but padding is no longer than the source that spells it, so memory is
asked for padding only. -/
def emit (labels : Labels) (row : Row) : Except Error Content :=
  if row.statement.isOrigin then
    ((reserve (row.offset base) row.size).map .padding).mapError .padding
  else ((row.statement.encode labels).map .bytes).mapError (.line row.line.number)

/-- Puts what the row has emitted behind the bytes before it, if it is as long as the first pass
counted. -/
def accept (row : Row) (content : Content) : Except Error Unit :=
  if content.size ≠ row.size then .error (.sizeMismatch row.line.number row.size content.size)
  else match content with
    | .padding n => (grow (row.offset base) n).mapError .padding
    | .bytes _ => .ok ()

def content (labels : Labels) (row : Row) : Except Error Content := do
  let content ← row.emit base labels
  row.accept base content
  return content

def piece (labels : Labels) (row : Row) : Except Error Piece :=
  (row.content base labels).map (⟨row, ·⟩)

end

end Row

structure Program where
  labels : Labels
  pieces : List Piece
  deriving DecidableEq, Repr

def Program.bytes (program : Program) : List UInt8 :=
  program.pieces.flatMap fun piece => piece.content.toList

def Program.image (program : Program) : Array UInt8 := program.bytes.toArray

def memoryEnd : Int := 0x1000

/-- The complaint about a program that ends at `address`, past memory. It names the last row. -/
def pastMemory (rows : Array Row) (address : Int) : Error :=
  match rows.back? with
  | some row => .line row.line.number (.endsPastMemory address)
  | none => .emptyProgram

/-- Assembles `source` for the address `base`. -/
def assemble [Heap] (source : List Char) (base : Int) : Except Error Program := do
  let layout ← Layout.ofLines base (sourceLines source)
  let pieces ← layout.rows.toList.mapM (Row.piece base layout.labels)
  if memoryEnd < layout.next then throw (pastMemory layout.rows layout.next)
  return ⟨layout.labels, pieces⟩

def assembleImage [Heap] (source : List Char) : Except Error (Array UInt8) :=
  (assemble source 0x200).map Program.image

/-! ### Listings -/

def shownBytes : Nat := 8

/-- The first bytes of a row, and a mark if there are more. An origin shows none. -/
def Content.shown : Content → String
  | .padding _ => ""
  | .bytes bs =>
    " ".intercalate ((bs.take shownBytes).map capitalByteHex) ++
      if shownBytes < bs.length then " ..." else ""

def inByteColumns (text : String) : String :=
  text ++ String.ofList (List.replicate (12 - text.length) ' ')

def Piece.line (piece : Piece) : String :=
  s!"  {capitalHex 3 piece.row.address}  {inByteColumns piece.content.shown}  " ++
    String.ofList piece.row.line.text

def labelLine (name : List Char) : String :=
  "                 " ++ String.ofList name ++ ":"

/-- The lines of `pieces` and of the labels that are not listed yet. -/
def listingFrom (labels : List (List Char × Int)) : List Piece → List String
  | [] => (labels.mergeSort fun a b => a.2 ≤ b.2).map fun label => labelLine label.1
  | piece :: pieces =>
    let (here, later) := labels.partition fun label => label.2 == piece.row.address
    here.map (fun label => labelLine label.1) ++ piece.line :: listingFrom later pieces

def Program.listing (program : Program) : List String :=
  listingFrom program.labels.toList program.pieces

end ChipEight.Assembly
