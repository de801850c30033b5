import ChipEight.CallStack
import ChipEight.Framebuffer.Basic
import ChipEight.Machine.Event
import ChipEight.Memory

/-!
# The machine

Registers, return stack, memory, screen and random generator, and the run state. Every operation is
a function from a machine to an `Outcome`: a result or a fault, the machine afterwards, and the
events on the way. This module holds the operations that execute nothing.
-/

namespace ChipEight

/-- A panicked machine keeps its fault until it is reset. -/
inductive RunState where
  | idle
  | running
  | halted
  | panicked (fault : Fault)
  deriving DecidableEq, Repr

def RunState.text : RunState → String
  | .idle => "idle"
  | .running => "running"
  | .halted => "halted"
  | .panicked _ => "panicked"

def RunState.fault? : RunState → Option Fault
  | .panicked fault => some fault
  | _ => none

abbrev Screen := Framebuffer 64 32

structure Machine where
  /-- What the random generator is seeded with, at power-on and at every reset. -/
  seed : Int
  registers : Vector UInt8 16
  index : UInt16
  pc : UInt16
  stack : CallStack
  /-- The timers are stored and shown; nothing counts them down. -/
  delayTimer : Int
  soundTimer : Int
  memory : Memory
  screen : Screen
  random : Random.Generator
  state : RunState
  /-- The operation that last wrote the flag register. -/
  flagSource : Option Op
  /-- The number of words fetched. -/
  count : Nat
  last : Option Instruction

structure Outcome (α : Type) where
  result : Except Fault α
  machine : Machine
  events : List Event

namespace Machine

def powerOn (seed : Int) (wrap : Bool) : Machine where
  seed := seed
  registers := Vector.replicate 16 0
  index := 0
  pc := UInt16.ofNat programStart
  stack := .empty
  delayTimer := 0
  soundTimer := 0
  memory := .initial
  screen := .dark 64 32 wrap
  random := .ofSeed seed
  state := .idle
  flagSource := none
  count := 0
  last := none

def register (m : Machine) (x : Register) : UInt8 := m.registers[x]

def setRegister (m : Machine) (x : Register) (value : UInt8) : Machine :=
  { m with registers := m.registers.set x value }

/-! ### Run state -/

def isRunning (m : Machine) : Bool := m.state = .running

def isStopped (m : Machine) : Bool :=
  match m.state with
  | .halted | .panicked _ => true
  | .idle | .running => false

/-- Back to power-on, with the same seed and the same edges. -/
def reset (m : Machine) : Outcome Unit :=
  ⟨.ok (), powerOn m.seed m.screen.wrap, [.reset]⟩

def start (m : Machine) : Outcome Bool :=
  match m.state with
  | .panicked _ => ⟨.ok false, m, []⟩
  | _ => ⟨.ok true, { m with state := .running }, []⟩

def stop (m : Machine) : Outcome Unit :=
  match m.state with
  | .panicked _ => ⟨.ok (), m, []⟩
  | _ => ⟨.ok (), { m with state := .halted }, [.halted m.pc .stopped]⟩

/-! ### Memory -/

/-- Puts an image into the program space and gives the number of bytes stored. -/
def load (m : Machine) (image : Array UInt8) : Outcome Nat :=
  let size := Memory.storedSize image
  ⟨.ok size, { m with memory := m.memory.load image }, [.loaded size]⟩

def writeBytes (m : Machine) (a : Int) (bytes : List UInt8) : Machine :=
  { m with memory := m.memory.writeBytes a bytes }

/-! ### Reports

The registers in rows of four with the special registers below them, and the open calls with the
last one first. -/

open Text

def registerEntry (m : Machine) (x : Register) : String :=
  s!"{registerText x} = {prefixedHex 4 (m.register x).toNat}"

def registerRow (m : Machine) (first : Nat) : String :=
  "  " ++ "  ".intercalate ((((List.ofFn id).drop first).take 4).map m.registerEntry)

def registerLines (m : Machine) : List String :=
  [m.registerRow 0, m.registerRow 4, m.registerRow 8, m.registerRow 12,
    s!"  I  = {prefixedHex 6 m.index.toNat}  PC = {addressHex m.pc.toNat}  SP = {m.stack.depth}",
    s!"  DT = {m.delayTimer}  ST = {m.soundTimer}  state = {m.state.text}"] ++
  match m.flagSource with
  | some op => [s!"  VF last written by {op.name}"]
  | none => []

def registerReport (m : Machine) : String := "\n".intercalate m.registerLines

def stackLine (entry : UInt16 × Nat) : String :=
  s!"  [{rightJustified 2 entry.2}] {addressHex entry.1.toNat}"

/-- The open calls, the last one first. -/
def stackReport (m : Machine) : String :=
  match m.stack.toList with
  | [] => "  (empty)"
  | calls => "\n".intercalate (calls.zipIdx.reverse.map stackLine)

end Machine

end ChipEight
