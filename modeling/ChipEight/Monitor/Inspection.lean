import ChipEight.Framebuffer.Basic
import ChipEight.HexDump
import ChipEight.Machine.Basic
import ChipEight.Monitor.Session

/-!
# Looking at the machine

The commands that show registers, stack, memory and screen, and the ones that set the whole screen.
-/

namespace ChipEight.Monitor.Session

open Text

def registers (s : Session) : Effect :=
  s.say [s.machine.registerReport, s!"  Instructions: {s.machine.count}"]

def stack (s : Session) : Effect := s.say [s.machine.stackReport]

def screen (s : Session) : Effect := s.say [s.machine.screen.plainPicture]

def status (s : Session) : Effect :=
  let m := s.machine
  s.say (
    [s!"  State: {m.state.text}  PC={addressHex m.pc.toNat}  SP={m.stack.depth}",
      s!"  Instructions: {m.count}"] ++
    (m.last.map fun i => s!"  Last: {i.text}").toList ++
    (m.state.fault?.map fun fault => s!"  Panic: {fault.message}").toList)

/-- The word in place `n`, read by `f`, or `otherwise` if there is none. -/
def wordOr (otherwise : Int) (f : List Char → Except CommandError Int)
    (words : List (List Char)) (n : Nat) : Except CommandError Int :=
  match words[n]? with
  | some word => f word
  | none => .ok otherwise

def dump (s : Session) (argument : List Char) : Effect := do
  let words ← argumentWords argument
  let a ← wordOr 0x200 s.address words 0
  let count ← wordOr 128 number words 1
  let lines ← (HexDump.lines s.machine.memory.toArray a count).mapError .index
  s.say lines

def disassemble (s : Session) (argument : List Char) : Effect := do
  let words ← argumentWords argument
  let memory := s.machine.memory.toArray
  let rows ← match words with
    | [] => (Disassembly.rowsBetween memory 0x200 Disassembly.lastWord).mapError .index
    | _ => do
      let a ← wordOr 0x200 s.address words 0
      let count ← wordOr 16 number words 1
      (Disassembly.rowsUpTo memory count.toNat a).mapError .index
  s.say (rows.map (Disassembly.Row.markedLine s.machine.pc.toNat))

inductive ScreenAction where
  | clear
  | fill
  | random
  deriving DecidableEq, Repr

def ScreenAction.ofWord? (word : List Char) : Option ScreenAction :=
  if word = "clear".toList then some .clear
  else if word = "fill".toList then some .fill
  else if word = "random".toList then some .random
  else none

def ScreenAction.apply (action : ScreenAction) (m : Machine) : Machine :=
  match action with
  | .clear => { m with screen := m.screen.clear }
  | .fill => { m with screen := m.screen.fill }
  | .random =>
    let (screen, generator) := m.screen.randomize m.random
    { m with screen, random := generator }

def framebuffer (s : Session) (argument : List Char) : Effect :=
  match ScreenAction.ofWord? (lower (trim argument)) with
  | none => s.say ["Usage: fb clear|fill|random"]
  | some action =>
    let machine := action.apply s.machine
    .ok ({ s with machine }, [.line s!"  {machine.screen.litCount} pixels lit."])

end ChipEight.Monitor.Session
