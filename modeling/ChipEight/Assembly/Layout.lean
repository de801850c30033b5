import ChipEight.Assembly.Statement
import ChipEight.Text.Identifier

/-!
# Layout

The first pass over the lines of a source that say something: every line gets an address, labels get
the addresses at which they stand, and every statement gets its size. No operand but that of an
origin is read.
-/

namespace ChipEight.Assembly

open Text

/-! ### Source lines -/

/-- What a line says, and its number from one. -/
structure SourceLine where
  number : Nat
  text : List Char
  deriving DecidableEq, Repr

/-- A line without its comment and without blanks at either end. -/
def content (line : List Char) : List Char := trim (line.takeWhile (· ≠ ';'))

/-- The lines of `source`, numbered from `first` on, that are not empty without their comments. -/
def numberedLines (first : Nat) (lines : List (List Char)) : List SourceLine :=
  ((lines.zipIdx first).map fun (line, n) => ⟨n, content line⟩).filter fun l => !l.text.isEmpty

/-- The lines of `source` that say something. -/
def sourceLines (source : List Char) : List SourceLine := numberedLines 1 (source.splitOn '\n')

/-! ### Addresses and sizes -/

/-- A statement, its address and its size in bytes. -/
structure Row where
  line : SourceLine
  address : Int
  statement : Statement
  size : Nat
  deriving DecidableEq, Repr

/-- The rows and labels so far, and the address of the next line. -/
structure Layout where
  labels : Labels
  rows : Array Row
  next : Int

def labelName? (text : List Char) : Option (List Char) :=
  if text.getLast? = some ':' then some (trim text.dropLast) else none

def isLabelName (name : List Char) : Bool := isIdentifier name && (register? name).isNone

def Statement.size (address : Int) : Statement → Except Cause Nat
  | .origin operand => do
    let target ← immediate operand
    if target < address then throw (.movesBackwards target address)
    return (target - address).toNat
  | .bytes operands => .ok operands.length
  | .words operands => .ok (operands.length * 2)
  | .instruction .. => .ok 2

namespace Layout

def addLabel (layout : Layout) (name : List Char) : Except Cause Layout :=
  if (layout.labels.value? name).isSome then .error (.duplicateLabel name)
  else if !isLabelName name then .error (.invalidLabel name)
  else .ok { layout with labels := layout.labels.push (name, layout.next) }

def addStatement (layout : Layout) (line : SourceLine) : Except Cause Layout := do
  let statement ← Statement.ofText line.text
  let size ← statement.size layout.next
  return { layout with
    rows := layout.rows.push ⟨line, layout.next, statement, size⟩
    next := layout.next + size }

def addLine (layout : Layout) (line : SourceLine) : Except Error Layout :=
  (match labelName? line.text with
    | some name => layout.addLabel name
    | none => layout.addStatement line).mapError (.line line.number)

def ofLines (base : Int) (lines : List SourceLine) : Except Error Layout :=
  lines.foldlM addLine ⟨#[], #[], base⟩

end Layout

end ChipEight.Assembly
