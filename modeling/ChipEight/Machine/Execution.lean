import ChipEight.Instruction.Encoding
import ChipEight.Machine.Basic

/-!
# Execution

`fetch` reads the word at the program counter, `execute` gives an instruction its effect, and `step`
puts them together. A fault is found before anything but the program counter, the count and the last
instruction has changed.
-/

namespace ChipEight.Machine

/-! ### Effects -/

/-- Writes the flag register and notes which operation did. -/
def setFlag (m : Machine) (flag : Bool) (source : Op) : Machine :=
  { m.setRegister flagRegister (if flag then 1 else 0) with flagSource := some source }

def skipIf (m : Machine) (condition : Bool) : Machine :=
  if condition then { m with pc := m.pc + 2 } else m

def checkTarget (transfer : Transfer) (target : Nat) : Except Fault.Cause UInt16 :=
  if programStart ≤ target ∧ target < 4096 then .ok (UInt16.ofNat target)
  else .error (.illegalTarget transfer target)

def jump (m : Machine) (transfer : Transfer) (target : Nat) : Except Fault.Cause Machine :=
  (checkTarget transfer target).map fun pc => { m with pc }

/-- Goes to `target` after pushing the program counter. The target is checked before the stack. -/
def call (m : Machine) (target : Address) : Except Fault.Cause Machine :=
  match checkTarget .call target.val with
  | .error cause => .error cause
  | .ok pc =>
    match m.stack.push? m.pc with
    | none => .error (.stackOverflow target)
    | some stack => .ok { m with pc, stack }

def ret (m : Machine) : Except Fault.Cause Machine :=
  match m.stack.pop? with
  | none => .error .stackUnderflow
  | some (pc, stack) => .ok { m with pc, stack }

def storeRandom (m : Machine) (x : Register) (mask : UInt8) : Machine :=
  let (byte, random) := m.random.byte
  { m.setRegister x (byte &&& mask) with random }

/-- Draws the sprite at the index register. A collision raises the flag; nothing lowers it. -/
def draw (m : Machine) (x y : Register) (height : Nibble) : Machine :=
  let sprite := m.memory.readBytes m.index.toNat height.val
  let (screen, collision) :=
    m.screen.blit ((m.register x).toNat : Int) ((m.register y).toNat : Int) sprite
  let m := { m with screen }
  if collision then m.setFlag true .draw else m

/-- The machine after an instruction, its program counter being past the instruction's word. -/
def execute (i : Instruction) (m : Machine) : Except Fault.Cause Machine :=
  let v := m.register
  match i with
  | .finish => .ok { m with pc := m.pc - 2, state := .halted }
  | .sys _ => .ok m
  | .clear => .ok { m with screen := m.screen.clear }
  | .ret => m.ret
  | .jump target => m.jump .jump target.val
  | .call target => m.call target
  | .skipEqByte x byte => .ok (m.skipIf (v x == byte))
  | .skipNeByte x byte => .ok (m.skipIf (v x != byte))
  | .skipEqReg x y => .ok (m.skipIf (v x == v y))
  | .skipNeReg x y => .ok (m.skipIf (v x != v y))
  | .loadByte x byte => .ok (m.setRegister x byte)
  | .addByte x byte => .ok (m.setRegister x (v x + byte))
  | .loadReg x y => .ok (m.setRegister x (v y))
  | .or x y => .ok (m.setRegister x (v x ||| v y))
  | .and x y => .ok (m.setRegister x (v x &&& v y))
  | .xor x y => .ok (m.setRegister x (v x ^^^ v y))
  | .addReg x y =>
    .ok ((m.setRegister x (v x + v y)).setFlag (255 < (v x).toNat + (v y).toNat) .addReg)
  | .sub x y => .ok ((m.setRegister x (v x - v y)).setFlag (v y < v x) .sub)
  | .shiftRight x _ => .ok ((m.setRegister x (v x >>> 1)).setFlag (v x &&& 1 = 1) .shiftRight)
  | .subFrom x y => .ok ((m.setRegister x (v y - v x)).setFlag (v x < v y) .subFrom)
  | .shiftLeft x _ => .ok ((m.setRegister x (v x <<< 1)).setFlag (v x >>> 7 = 1) .shiftLeft)
  | .loadIndex target => .ok { m with index := UInt16.ofNat target.val }
  | .jumpOffset target => m.jump .jumpOffset (target.val + (v indexingRegister).toNat)
  | .random x mask => .ok (m.storeRandom x mask)
  | .draw x y height => .ok (m.draw x y height)
  | .unknown word => .error (.invalidOpcode word)

/-- `execute`, but for the rule that no instruction may name the flag register as its
destination. -/
def executeGuarded (i : Instruction) (m : Machine) : Except Fault.Cause Machine :=
  if i.destination? = some flagRegister then .error (.reservedRegister i) else execute i m

/-! ### Steps -/

/-- The two bytes at the program counter, and the machine past them. -/
def fetch (m : Machine) : Except Fault ((UInt8 × UInt8) × Machine) :=
  if h : m.pc.toNat + 1 < 4096 then
    .ok ((m.memory[m.pc.toNat], m.memory[m.pc.toNat + 1]),
      { m with pc := m.pc + 2, count := m.count + 1 })
  else .error ⟨m.pc, .fetchPastEnd⟩

def panicWith (m : Machine) (fault : Fault) (before : List Event) : Outcome Bool :=
  ⟨.error fault, { m with state := .panicked fault }, before ++ [.panicked fault]⟩

/-- One instruction of a running machine. -/
def cycle (m : Machine) : Outcome Bool :=
  match m.fetch with
  | .error fault => m.panicWith fault []
  | .ok ((b₀, b₁), fetched) =>
    let i := decodeBytes b₀ b₁
    let decoded := { fetched with last := some i }
    match executeGuarded i decoded with
    | .error cause => decoded.panicWith ⟨m.pc, cause⟩ [.executing m.pc i]
    | .ok next =>
      ⟨.ok true, next,
        .executing m.pc i :: if i = .finish then [.halted next.pc .endOfProgram] else []⟩

/-- Executes one instruction, unless the machine is stopped. An idle machine starts to run. -/
def step (m : Machine) : Outcome Bool :=
  match m.state with
  | .idle | .running => { m with state := .running }.cycle
  | .halted | .panicked _ => ⟨.ok false, m, []⟩

/-! ### Runs -/

/-- Steps up to `limit` times more, after `done` steps with their events. -/
def runFrom : Nat → Nat → Array Event → Machine → Outcome Nat
  | 0, done, events, m => ⟨.ok done, m, events.toList⟩
  | limit + 1, done, events, m =>
    match m.step with
    | ⟨.ok true, m, more⟩ => runFrom limit (done + 1) (events ++ more) m
    | ⟨.ok false, m, more⟩ => ⟨.ok done, m, (events ++ more).toList⟩
    | ⟨.error fault, m, more⟩ => ⟨.error fault, m, (events ++ more).toList⟩

/-- Steps until the machine stops, at most `limit` times, and counts the steps. -/
def run (m : Machine) (limit : Nat) : Outcome Nat := runFrom limit 0 #[] m

end ChipEight.Machine
