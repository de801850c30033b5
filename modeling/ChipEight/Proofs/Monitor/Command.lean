import ChipEight.Monitor.Reaction

/-!
# Commands at work

`react` gives a session as a whole or an error. Here the same commands are carried out write by
write: what has been written and said when something is raised stays, and a command goes on only
after what it catches itself. The operations of the machine are taken whole; how they write is said
by `Machine.stepInPlace` and `Machine.resetInPlace`.
-/

namespace ChipEight.Monitor

open Text

/-! ### What is raised -/

/-- What can be raised while a command is carried out. -/
inductive Raised where
  | fault (fault : Fault)
  | assembly (error : Assembly.Error)
  | file (error : FileError)
  | encoding (error : Utf8.Error)
  | numeral (error : Numeral.Error)
  | words (error : ShellWords.Error)
  | index (error : IndexError)
  deriving DecidableEq, Repr

namespace Raised

def fault? : Raised → Option Fault
  | .fault caught => some caught
  | _ => none

/-- An assembly error that is about a line. The others are not raised on account of the source. -/
def lineError? : Raised → Option Assembly.Error
  | .assembly (.line number cause) => some (.line number cause)
  | _ => none

/-- What the system says of a file. A null character in a path is found before the system is
asked. -/
def systemError? : Raised → Option FileError
  | .file .nullCharacter => none
  | .file error => some error
  | _ => none

def ofTextFile : TextFileError → Raised
  | .file error => .file error
  | .encoding error => .encoding error

def ofError : CommandError → Raised
  | .numeral error => .numeral error
  | .words error => .words error
  | .index error => .index error
  | .encoding error => .encoding error
  | .nullCharacter => .file .nullCharacter
  | .assembly error => .assembly error

end Raised

structure Console where
  session : Session
  said : List Entry

/-- A command at work. What it has written and said stays when it raises something. -/
abbrev Command := EStateM Raised Console

namespace Command

variable {α ε κ : Type}

/-! ### Pieces of work -/

def session : Command Session := return (← get).session

def machine : Command Machine := return (← session).machine

def update (f : Session → Session) : Command Unit :=
  modify fun console => { console with session := f console.session }

def utter (entries : List Entry) : Command Unit :=
  modify fun console => { console with said := console.said ++ entries }

def say (text : String) : Command Unit := utter [.line text]

def sayAll (texts : List String) : Command Unit := utter (texts.map .line)

def orRaise (raise : ε → Raised) : Except ε α → Command α
  | .ok a => return a
  | .error error => throw (raise error)

/-- Operates the machine. The machine and its events are there also when the operation faults. -/
def operate (operation : Machine → Outcome α) : Command α := do
  let outcome := operation (← machine)
  update fun s => { s with machine := outcome.machine }
  utter (Entry.ofEvents outcome.events)
  orRaise .fault outcome.result

/-- Goes on after what is `known`; anything else is raised again. -/
def catching (known : Raised → Option κ) (work : Command α) : Command (Except κ α) :=
  tryCatch (.ok <$> work) fun raised =>
    match known raised with
    | some caught => return .error caught
    | none => throw raised

/-! ### Loading -/

def install (image : Array UInt8) (origin : String) : Command Unit := do
  update fun s => { s with image := some image }
  operate Machine.reset
  let count ← operate (·.load image)
  say s!"Loaded {count} bytes from {origin} at 0x200"

def load (files : Directory) (argument : List Char) : Command Unit := do
  match ← orRaise .ofError (Session.argumentWords argument) with
  | [] => say "Usage: load <file>"
  | path :: _ =>
    match ← catching Raised.systemError? (orRaise .file (files.read path)) with
    | .ok image => install image (Session.pathText path)
    | .error error => say s!"Error: {error.message}"

def installSource [Heap] (source : List Char) (origin : String) : Command Unit := do
  match ← catching Raised.lineError? (orRaise .assembly (Assembly.assembleImage source)) with
  | .ok image => install image origin
  | .error error => say s!"Assembly error: {error.message}"

def assembleAndLoad [Heap] (files : Directory) (argument : List Char) : Command Unit := do
  match ← orRaise .ofError (Session.argumentWords argument) with
  | [] => say "Usage: asm <file.asm>  OR  asm -e \"code\""
  | ['-', 'e'] :: rest => installSource (Session.inlineSource (rest.headD [])) "inline source"
  | path :: _ =>
    match ← catching Raised.systemError? (orRaise .ofTextFile (files.readText path)) with
    | .ok source => installSource source (Session.pathText path)
    | .error error => say s!"Error reading {Session.pathText path}: {error.message}"

def reset : Command Unit := do
  operate Machine.reset
  if let some image := (← session).image then
    let _ ← operate (·.load image)
  say "Machine reset."

/-! ### Running a program -/

def start : Command Unit := do
  if ← operate Machine.start then say s!"Running. PC={addressHex (← machine).pc.toNat}"
  else say "Machine panicked; 'reset' first."

def stop : Command Unit := do
  operate Machine.stop
  say s!"Halted at PC={addressHex (← machine).pc.toNat}"

def byteAt (a : Int) : Command UInt8 := do
  orRaise .index (Disassembly.byteAt (← machine).memory.toArray a)

/-- The last instruction as it is shown, and a word for the lack of one. -/
def lastText (m : Machine) : String :=
  match m.last with
  | some i => i.text
  | none => "None"

/-- Says which instruction the machine has just executed, with the bytes at its address. -/
def sayExecuted (a : Int) : Command Unit := do
  let first ← byteAt a
  let second ← byteAt (a + 1)
  say ("  " ++ s!"{addressHex a}: {byteHex first} {byteHex second}  {lastText (← machine)}")

def stepTimes : Nat → Command Unit
  | 0 => return
  | count + 1 => do
    let before : Int := (← machine).pc.toNat
    match ← catching Raised.fault? (operate Machine.step) with
    | .error fault => say (Session.faultText fault)
    | .ok false => say (Session.haltText (← machine))
    | .ok true =>
      sayExecuted before
      if (← machine).isStopped then say (Session.haltText (← machine)) else stepTimes count

def step (argument : List Char) : Command Unit := do
  let count ← orRaise .ofError (Session.numberOr 1 argument)
  if (← machine).state = .halted then
    let _ ← operate Machine.start
  stepTimes count.toNat

def concludeRun (total : Nat) : Command Unit := do
  if (← machine).isStopped then
    say s!"{Session.haltText (← machine)} after {total} instructions."
  else say s!"\nStopped after {total} steps."

def runTimes : Nat → Nat → Command Unit
  | 0, total => concludeRun total
  | limit + 1, total => do
    if total ≠ 0 ∧ ((← machine).pc.toNat : Int) ∈ (← session).breakpoints then
      operate Machine.stop
      say s!"\nBreakpoint hit at {addressHex (← machine).pc.toNat}"
    else
      match ← catching Raised.fault? (operate Machine.step) with
      | .error fault => say (Session.faultText fault)
      | .ok false => concludeRun total
      | .ok true =>
        if (← machine).isStopped then concludeRun (total + 1) else runTimes limit (total + 1)

def runProgram (argument : List Char) : Command Unit := do
  let limit ← orRaise .ofError (Session.numberOr Session.defaultLimit argument)
  match (← machine).state with
  | .panicked _ => say (Session.haltText (← machine))
  | _ =>
    let _ ← operate Machine.start
    runTimes limit.toNat 0

def breakpoint (argument : List Char) : Command Unit := do
  if (trim argument).isEmpty then
    let addresses := (← session).breakpoints
    if addresses.isEmpty then say "No breakpoints set."
    else
      say "Breakpoints:"
      sayAll (addresses.map fun a => "  " ++ addressHex a)
  else
    let a ← orRaise .ofError ((← session).address argument)
    update fun s => { s with breakpoints := Session.insertAddress a s.breakpoints }
    say s!"Breakpoint set at {addressHex a}"

def clearBreakpoint (argument : List Char) : Command Unit := do
  if lower (trim argument) = ['a', 'l', 'l'] then
    update fun s => { s with breakpoints := [] }
    say "All breakpoints cleared."
  else
    let a ← orRaise .ofError ((← session).address argument)
    update fun s => { s with breakpoints := s.breakpoints.filter (· ≠ a) }
    say s!"Breakpoint at {addressHex a} removed."

/-! ### Looking at the machine -/

def registers : Command Unit := do
  say (← machine).registerReport
  say s!"  Instructions: {(← machine).count}"

def stack : Command Unit := do
  say (← machine).stackReport

def dump (argument : List Char) : Command Unit := do
  let words ← orRaise .ofError (Session.argumentWords argument)
  let a ← orRaise .ofError (Session.wordOr 0x200 (← session).address words 0)
  let count ← orRaise .ofError (Session.wordOr 128 Session.number words 1)
  sayAll (← orRaise .index (HexDump.lines (← machine).memory.toArray a count))

def disassemble (argument : List Char) : Command Unit := do
  let words ← orRaise .ofError (Session.argumentWords argument)
  let memory := (← machine).memory.toArray
  let rows ← match words with
    | [] => orRaise .index (Disassembly.rowsBetween memory 0x200 Disassembly.lastWord)
    | _ => do
      let a ← orRaise .ofError (Session.wordOr 0x200 (← session).address words 0)
      let count ← orRaise .ofError (Session.wordOr 16 Session.number words 1)
      orRaise .index (Disassembly.rowsUpTo memory count.toNat a)
  sayAll (rows.map (Disassembly.Row.markedLine (← machine).pc.toNat))

def screen : Command Unit := do
  say (← machine).screen.plainPicture

def framebuffer (argument : List Char) : Command Unit := do
  match Session.ScreenAction.ofWord? (lower (trim argument)) with
  | none => say "Usage: fb clear|fill|random"
  | some action =>
    update fun s => { s with machine := action.apply s.machine }
    say s!"  {(← machine).screen.litCount} pixels lit."

def status : Command Unit := do
  let m ← machine
  say s!"  State: {m.state.text}  PC={addressHex m.pc.toNat}  SP={m.stack.depth}"
  say s!"  Instructions: {m.count}"
  if let some i := m.last then
    say s!"  Last: {i.text}"
  if let some fault := m.state.fault? then
    say s!"  Panic: {fault.message}"

/-! ### Lines -/

def quit : Command Bool := do
  say "Goodbye."
  return true

def goingOn (work : Command Unit) : Command Bool := do
  work
  return false

/-- Carries out a command and says whether it ends the monitor. -/
def perform [Heap] (files : Directory) (verb : Verb) (argument : List Char) : Command Bool :=
  match verb with
  | .load => goingOn (load files argument)
  | .assemble => goingOn (assembleAndLoad files argument)
  | .reset => goingOn reset
  | .start => goingOn start
  | .stop => goingOn stop
  | .step => goingOn (step argument)
  | .run | .proceed => goingOn (runProgram argument)
  | .breakpoint => goingOn (breakpoint argument)
  | .clearBreakpoint => goingOn (clearBreakpoint argument)
  | .registers => goingOn registers
  | .stack => goingOn stack
  | .dump => goingOn (dump argument)
  | .disassemble => goingOn (disassemble argument)
  | .screen => goingOn screen
  | .framebuffer => goingOn (framebuffer argument)
  | .status => goingOn status
  | .help => goingOn (sayAll (helpLines argument))
  | .quit => quit
  | .endOfInput => do
    say ""
    quit

def ofLine [Heap] (files : Directory) (line : List Char) : Command Bool :=
  match Line.parse line with
  | .empty => return false
  | .command verb argument => perform files verb argument
  | .unknown word => goingOn <|
    say s!"Unknown command: {String.ofList (quoted word)}. Type 'help' for available commands."

end Command

end ChipEight.Monitor
