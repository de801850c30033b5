import ChipEight.Disassembly
import ChipEight.Monitor.Session

/-!
# Running a program

The commands that let the machine work: step by step, or until it halts, faults, reaches a
breakpoint or has taken as many steps as it may.
-/

namespace ChipEight.Monitor.Session

open Text

def start (s : Session) : Effect :=
  let outcome := s.machine.start
  .ok ({ s with machine := outcome.machine },
    [.line (if outcome.machine.isRunning then s!"Running. PC={addressHex s.machine.pc.toNat}"
      else "Machine panicked; 'reset' first.")])

def stop (s : Session) : Effect :=
  let outcome := s.machine.stop
  .ok ({ s with machine := outcome.machine },
    Entry.ofEvents outcome.events ++ [.line s!"Halted at PC={addressHex s.machine.pc.toNat}"])

/-! ### Steps -/

def instructionLine (m : Machine) : String :=
  let a : Int := m.pc.toNat
  (Disassembly.Row.mk a (m.memory.read a) (m.memory.read (a + 1))).line

/-- Steps up to `count` times, with a line for each step. -/
def stepLoop : Nat → Machine → Array Entry → Machine × Array Entry
  | 0, m, out => (m, out)
  | count + 1, m, out =>
    let outcome := m.step
    let next := outcome.machine
    let out := out ++ Entry.ofEvents outcome.events
    match outcome.result with
    | .error fault => (next, out.push (.line (faultText fault)))
    | .ok false => (next, out.push (.line (haltText next)))
    | .ok true =>
      let out := out.push (.line (instructionLine m))
      if next.isStopped then (next, out.push (.line (haltText next))) else stepLoop count next out

/-- A halted machine goes on; any other is left as it is. -/
def wake (m : Machine) : Machine :=
  match m.state with
  | .halted => m.start.machine
  | _ => m

def step (s : Session) (argument : List Char) : Effect := do
  let count ← numberOr 1 argument
  let (machine, out) := stepLoop count.toNat (wake s.machine) #[]
  return ({ s with machine }, out.toList)

/-! ### Runs -/

inductive RunEnd where
  | breakpoint
  | fault (fault : Fault)
  /-- The machine halted, or the run was as long as it might be. -/
  | over
  deriving DecidableEq, Repr

structure RunResult where
  machine : Machine
  events : Array Event
  steps : Nat
  ending : RunEnd

/-- Steps up to `limit` times more, after `done` steps. A breakpoint stops a run that has taken a
step. -/
def runLoop (breakpoints : List Int) : Nat → Nat → Machine → Array Event → RunResult
  | 0, done, m, events => ⟨m, events, done, .over⟩
  | limit + 1, done, m, events =>
    if done ≠ 0 ∧ (m.pc.toNat : Int) ∈ breakpoints then ⟨m, events, done, .breakpoint⟩
    else
      let outcome := m.step
      let next := outcome.machine
      let events := events ++ outcome.events
      match outcome.result with
      | .error fault => ⟨next, events, done, .fault fault⟩
      | .ok false => ⟨next, events, done, .over⟩
      | .ok true =>
        if next.isStopped then ⟨next, events, done + 1, .over⟩
        else runLoop breakpoints limit (done + 1) next events

/-- The most steps of a run that has no limit of its own. -/
def defaultLimit : Int := 1000000

/-- What is said about a run, and the machine after it. -/
def RunResult.conclude (r : RunResult) : Machine × List Entry :=
  let entries := Entry.ofEvents r.events.toList
  match r.ending with
  | .breakpoint =>
    let outcome := r.machine.stop
    (outcome.machine, entries ++ Entry.ofEvents outcome.events ++
      [.line s!"\nBreakpoint hit at {addressHex r.machine.pc.toNat}"])
  | .fault fault => (r.machine, entries ++ [.line (faultText fault)])
  | .over =>
    (r.machine, entries ++ [.line (
      if r.machine.isStopped then s!"{haltText r.machine} after {r.steps} instructions."
      else s!"\nStopped after {r.steps} steps.")])

def run (s : Session) (argument : List Char) : Effect := do
  let limit ← numberOr defaultLimit argument
  match s.machine.state with
  | .panicked _ => s.say [haltText s.machine]
  | _ =>
    let (machine, entries) :=
      (runLoop s.breakpoints limit.toNat 0 s.machine.start.machine #[]).conclude
    return ({ s with machine }, entries)

/-! ### Breakpoints -/

def insertAddress (a : Int) : List Int → List Int
  | [] => [a]
  | b :: bs => if a < b then a :: b :: bs else if a = b then b :: bs else b :: insertAddress a bs

def breakpoint (s : Session) (argument : List Char) : Effect :=
  if (trim argument).isEmpty then
    s.say (if s.breakpoints.isEmpty then ["No breakpoints set."]
      else "Breakpoints:" :: s.breakpoints.map fun a => "  " ++ addressHex a)
  else do
    let a ← s.address argument
    return ({ s with breakpoints := insertAddress a s.breakpoints },
      [.line s!"Breakpoint set at {addressHex a}"])

def clearBreakpoint (s : Session) (argument : List Char) : Effect :=
  if lower (trim argument) = ['a', 'l', 'l'] then
    .ok ({ s with breakpoints := [] }, [.line "All breakpoints cleared."])
  else do
    let a ← s.address argument
    return ({ s with breakpoints := s.breakpoints.filter (· ≠ a) },
      [.line s!"Breakpoint at {addressHex a} removed."])

end ChipEight.Monitor.Session
