import ChipEight.Proofs.Machine.Faults

/-!
# Steps in place

`step` gives a machine as a whole or a fault. Here the same step is taken write by write: a check
stands where it is made, and a fault breaks the work off there and leaves all that has been written.
`stepInPlace_eq` shows that nothing has been written then but the program counter, the count and the
last instruction.
-/

namespace ChipEight.Machine

variable {m : Machine}

/-- Work on a machine. When it faults, what has been written stays written. -/
abbrev Work := EStateM Fault.Cause Machine

namespace Work

def read (x : Register) : Work UInt8 := return (← get).register x

def write (x : Register) (value : UInt8) : Work Unit := modify fun m => m.setRegister x value

def writeFlag (flag : Bool) (source : Op) : Work Unit := modify fun m => m.setFlag flag source

def goTo (pc : UInt16) : Work Unit := modify fun m => { m with pc }

def skipIf (condition : Bool) : Work Unit := do
  if condition then goTo ((← get).pc + 2)

/-- Faults unless the target lies in the program space. -/
def require (transfer : Transfer) (target : Nat) : Work UInt16 :=
  if programStart ≤ target ∧ target < 4096 then return UInt16.ofNat target
  else throw (.illegalTarget transfer target)

def jump (transfer : Transfer) (target : Nat) : Work Unit := do
  let pc ← require transfer target
  goTo pc

def call (target : Address) : Work Unit := do
  let pc ← require .call target.val
  let m ← get
  if room : m.stack.depth < stackDepth then
    -- The slot first, then the depth.
    let slots := m.stack.slots.set m.stack.depth m.pc
    modify fun m => { m with stack := ⟨slots, m.stack.depth, m.stack.depth_le⟩ }
    modify fun m => { m with stack := ⟨slots, _, room⟩ }
    goTo pc
  else throw (.stackOverflow target)

def ret : Work Unit := do
  let m ← get
  if opened : 0 < m.stack.depth then
    have inside : m.stack.depth - 1 < stackDepth := by have := m.stack.depth_le; omega
    modify fun m => { m with stack := ⟨m.stack.slots, _, Nat.le_of_lt inside⟩ }
    goTo m.stack.slots[m.stack.depth - 1]
  else throw .stackUnderflow

def storeRandom (x : Register) (mask : UInt8) : Work Unit := do
  let (byte, random) := (← get).random.byte
  modify fun m => { m with random }
  write x (byte &&& mask)

def draw (x y : Register) (height : Nibble) : Work Unit := do
  let m ← get
  let sprite := m.memory.readBytes m.index.toNat height.val
  let (screen, collision) :=
    m.screen.blit ((m.register x).toNat : Int) ((m.register y).toNat : Int) sprite
  modify fun m => { m with screen }
  if collision then writeFlag true .draw

def combine (x y : Register) (f : UInt8 → UInt8 → UInt8) : Work Unit := do
  write x (f (← read x) (← read y))

/-- Register `x` becomes a function of itself and register `y`, then the flag another one of the
values that they had before. -/
def combineFlagged (source : Op) (x y : Register) (f : UInt8 → UInt8 → UInt8)
    (flag : UInt8 → UInt8 → Bool) : Work Unit := do
  let a ← read x
  let b ← read y
  write x (f a b)
  writeFlag (flag a b) source

def execute : Instruction → Work Unit
  | .finish => do
    goTo ((← get).pc - 2)
    modify fun m => { m with state := .halted }
  | .sys _ => return
  | .clear => modify fun m => { m with screen := m.screen.clear }
  | .ret => ret
  | .jump target => jump .jump target.val
  | .call target => call target
  | .skipEqByte x byte => do skipIf ((← read x) == byte)
  | .skipNeByte x byte => do skipIf ((← read x) != byte)
  | .skipEqReg x y => do skipIf ((← read x) == (← read y))
  | .skipNeReg x y => do skipIf ((← read x) != (← read y))
  | .loadByte x byte => write x byte
  | .addByte x byte => do write x ((← read x) + byte)
  | .loadReg x y => combine x y fun _ b => b
  | .or x y => combine x y (· ||| ·)
  | .and x y => combine x y (· &&& ·)
  | .xor x y => combine x y (· ^^^ ·)
  | .addReg x y => combineFlagged .addReg x y (· + ·) fun a b => 255 < a.toNat + b.toNat
  | .sub x y => combineFlagged .sub x y (· - ·) fun a b => b < a
  | .shiftRight x _ => combineFlagged .shiftRight x x (fun a _ => a >>> 1) fun a _ => a &&& 1 = 1
  | .subFrom x y => combineFlagged .subFrom x y (fun a b => b - a) fun a b => a < b
  | .shiftLeft x _ => combineFlagged .shiftLeft x x (fun a _ => a <<< 1) fun a _ => a >>> 7 = 1
  | .loadIndex target => modify fun m => { m with index := UInt16.ofNat target.val }
  | .jumpOffset target => do jump .jumpOffset (target.val + (← read indexingRegister).toNat)
  | .random x mask => storeRandom x mask
  | .draw x y height => draw x y height
  | .unknown word => throw (.invalidOpcode word)

def fetch : Work (UInt8 × UInt8) := do
  let m ← get
  if m.pc.toNat + 1 < 4096 then
    goTo (m.pc + 2)
    modify fun m => { m with count := m.count + 1 }
    return (m.memory.read m.pc.toNat, m.memory.read (m.pc.toNat + 1))
  else throw .fetchPastEnd

/-- Notes the instruction, then executes it unless its destination is the flag register. -/
def perform (i : Instruction) : Work Unit := do
  modify fun m => { m with last := some i }
  if i.destination? = some flagRegister then throw (.reservedRegister i)
  execute i

def cycle : Work Unit := do
  let (b₀, b₁) ← fetch
  perform (decodeBytes b₀ b₁)

end Work

/-- A step, write by write, and the machine that it leaves. -/
def stepInPlace (m : Machine) : Except Fault Bool × Machine :=
  match m.state with
  | .idle | .running =>
    match Work.cycle.run { m with state := .running } with
    | .ok () next => (.ok true, next)
    | .error cause broken =>
      (.error ⟨m.pc, cause⟩, { broken with state := .panicked ⟨m.pc, cause⟩ })
  | .halted | .panicked _ => (.ok false, m)

namespace Work

/-- What a complete piece of work comes to when it is done in place. -/
def ofExcept (m : Machine) : Except Fault.Cause Machine → EStateM.Result Fault.Cause Machine Unit
  | .ok next => .ok () next
  | .error cause => .error cause m

theorem jump_eq (transfer : Transfer) (target : Nat) :
    (jump transfer target).run m = ofExcept m (m.jump transfer target) := by
  unfold jump require Machine.jump checkTarget
  by_cases legal : programStart ≤ target ∧ target < 4096
  · simp only [if_pos legal]
    rfl
  · simp only [if_neg legal]
    rfl

theorem call_eq (target : Address) : (call target).run m = ofExcept m (m.call target) := by
  unfold call require Machine.call checkTarget CallStack.push?
  by_cases legal : programStart ≤ target.val ∧ target.val < 4096
  · simp only [if_pos legal]
    by_cases room : m.stack.depth < stackDepth
    · simp only [dif_pos room]
      show (if room : m.stack.depth < stackDepth then _ else _ : Work Unit).run m = _
      rw [dif_pos room]
      rfl
    · simp only [dif_neg room]
      show (if room : m.stack.depth < stackDepth then _ else _ : Work Unit).run m = _
      rw [dif_neg room]
      rfl
  · simp only [if_neg legal]
    rfl

theorem ret_eq : ret.run m = ofExcept m m.ret := by
  unfold ret Machine.ret CallStack.pop?
  show (if opened : 0 < m.stack.depth then _ else _ : Work Unit).run m = _
  by_cases opened : 0 < m.stack.depth
  · simp only [dif_pos opened]
    rfl
  · simp only [dif_neg opened]
    rfl

theorem skipIf_eq (condition : Bool) : (skipIf condition).run m = .ok () (m.skipIf condition) := by
  cases condition <;> rfl

theorem storeRandom_eq (x : Register) (mask : UInt8) :
    (storeRandom x mask).run m = .ok () (m.storeRandom x mask) := by
  rfl

theorem draw_eq (x y : Register) (height : Nibble) :
    (draw x y height).run m = .ok () (m.draw x y height) := by
  have drawn : (draw x y height).run m =
      let drawn := m.screen.blit (m.register x).toNat (m.register y).toNat
        (m.memory.readBytes m.index.toNat height.val)
      (if drawn.2 then writeFlag true .draw else pure () : Work Unit).run
        { m with screen := drawn.1 } := rfl
  have done : m.draw x y height =
      let drawn := m.screen.blit (m.register x).toNat (m.register y).toNat
        (m.memory.readBytes m.index.toNat height.val)
      if drawn.2 then { m with screen := drawn.1 }.setFlag true .draw
      else { m with screen := drawn.1 } := rfl
  rw [drawn, done]
  dsimp only
  split <;> rfl

/-- The checks of an instruction come before its first write. -/
theorem execute_eq (i : Instruction) : (execute i).run m = ofExcept m (Machine.execute i m) := by
  cases i with
  | jump target => exact jump_eq .jump target.val
  | jumpOffset target => exact jump_eq .jumpOffset _
  | call target => exact call_eq target
  | ret => exact ret_eq
  | draw x y height => exact draw_eq x y height
  | random x mask => exact storeRandom_eq x mask
  | skipEqByte x byte | skipNeByte x byte | skipEqReg x y | skipNeReg x y => exact skipIf_eq _
  | _ => rfl

theorem perform_eq (i : Instruction) : (perform i).run m =
    ofExcept { m with last := some i } (executeGuarded i { m with last := some i }) := by
  show (if i.destination? = some flagRegister then _ else _ : Work Unit).run _ = _
  unfold executeGuarded
  by_cases reserved : i.destination? = some flagRegister
  · rw [if_pos reserved, if_pos reserved]
    rfl
  · rw [if_neg reserved, if_neg reserved]
    exact execute_eq i

theorem cycle_short (short : 0xFFE < m.pc.toNat) : cycle.run m = .error .fetchPastEnd m := by
  have none_left : ¬m.pc.toNat + 1 < 4096 := by omega
  have fetched : fetch m = .error .fetchPastEnd m := by
    show (if m.pc.toNat + 1 < 4096 then _ else _ : Work (UInt8 × UInt8)).run m = _
    rw [if_neg none_left]
    rfl
  show EStateM.bind fetch _ m = _
  rw [EStateM.bind, fetched]

theorem cycle_whole (whole : m.pc.toNat ≤ 0xFFE) :
    cycle.run { m with state := .running } =
      ofExcept m.fetched (executeGuarded (decode m.nextWord) m.fetched) := by
  have left : m.pc.toNat + 1 < 4096 := by omega
  have fetched : fetch { m with state := .running } =
      .ok (m.memory.read m.pc.toNat, m.memory.read (m.pc.toNat + 1))
        { m with state := .running, pc := m.pc + 2, count := m.count + 1 } := by
    show (if m.pc.toNat + 1 < 4096 then _ else _ : Work (UInt8 × UInt8)).run _ = _
    rw [if_pos left]
    rfl
  show EStateM.bind fetch _ _ = _
  rw [EStateM.bind, fetched]
  exact perform_eq _

end Work

theorem stepInPlace_eq (m : Machine) : m.stepInPlace = (m.step.result, m.step.machine) := by
  cases stopped : m.isStopped with
  | true =>
    rw [step_stopped stopped]
    unfold stepInPlace
    cases state : m.state with
    | idle | running => simp [isStopped, state] at stopped
    | halted | panicked => rfl
  | false =>
    have going : m.stepInPlace = match Work.cycle.run { m with state := .running } with
        | .ok () next => (.ok true, next)
        | .error cause broken =>
          (.error ⟨m.pc, cause⟩, { broken with state := .panicked ⟨m.pc, cause⟩ }) := by
      unfold stepInPlace
      cases state : m.state with
      | idle | running => rfl
      | halted | panicked => simp [isStopped, state] at stopped
    rw [going]
    by_cases short : 0xFFE < m.pc.toNat
    · rw [Work.cycle_short (m := { m with state := .running }) short, step_short stopped short]
      rfl
    · rw [Work.cycle_whole (Nat.not_lt.mp short), step_whole stopped (Nat.not_lt.mp short)]
      cases executeGuarded (decode m.nextWord) m.fetched <;> rfl

/-! ### Faults -/

theorem dueFault?_eq_fetchPastEnd : m.dueFault? = some .fetchPastEnd ↔ 0xFFE < m.pc.toNat := by
  -- Of the faults in the list only the first is a failed fetch.
  have later {P : Prop} [Decidable P] {cause : Fault.Cause} {rest : Option Fault.Cause}
      (other : cause ≠ .fetchPastEnd) :
      (if P then some cause else rest) = some .fetchPastEnd ↔ ¬P ∧ rest = some .fetchPastEnd := by
    by_cases holds : P <;> simp [holds, other]
  unfold dueFault?
  by_cases short : 0xFFE < m.pc.toNat <;> simp [short, later]

theorem due_of_step_error {fault : Fault} (raised : m.step.result = .error fault) :
    m.isStopped = false ∧ ∃ cause, m.dueFault? = some cause ∧ fault = ⟨m.pc, cause⟩ := by
  cases stopped : m.isStopped with
  | true =>
    rw [step_stopped stopped] at raised
    cases raised
  | false =>
    refine ⟨rfl, ?_⟩
    rw [step_result stopped] at raised
    cases due : m.dueFault? with
    | none =>
      rw [due] at raised
      cases raised
    | some cause =>
      rw [due] at raised
      exact ⟨cause, rfl, (Except.error.inj raised).symm⟩

/-- A step that faults, be its writes done one by one or all at the end, changes nothing but the
run state and, if a word was fetched, the program counter, the count and the last instruction. -/
theorem faulting_step_is_atomic (m : Machine) (fault : Fault)
    (raised : m.step.result = .error fault) :
    m.stepInPlace = (.error fault, m.step.machine) ∧
    (fault.cause = .fetchPastEnd → m.step.machine = { m with state := .panicked fault }) ∧
    (fault.cause ≠ .fetchPastEnd →
      m.step.machine = { m with
        state := .panicked fault
        pc := m.pc + 2
        count := m.count + 1
        last := some (decode m.nextWord) } ∧
      m.step.machine.pc.toNat = m.pc.toNat + 2) := by
  obtain ⟨active, cause, due, rfl⟩ := due_of_step_error raised
  refine ⟨?_, ?_, ?_⟩
  · rw [stepInPlace_eq, raised]
  · rintro (rfl : cause = .fetchPastEnd)
    rw [step_short active (dueFault?_eq_fetchPastEnd.mp due)]
    rfl
  · intro fetched
    have whole : m.pc.toNat ≤ 0xFFE := by
      refine Nat.not_lt.mp fun short => fetched ?_
      exact Option.some.inj (due.symm.trans (dueFault?_eq_fetchPastEnd.mpr short))
    rw [step_machine_of_due active whole due]
    exact ⟨rfl, pc_fetched whole⟩

/-- A machine with `RND VF, 0xCF` in all words of its memory. -/
def allRandoms : Machine := { powerOn 0 false with memory := Vector.replicate 4096 0xCF }

/-- The rejected instruction has taken no random byte. -/
theorem faulting_step_is_atomic_on_random :
    allRandoms.step.result = .error ⟨0x200, .reservedRegister (.random 15 0xCF)⟩ ∧
    allRandoms.step.machine.random = allRandoms.random ∧
    allRandoms.step.machine.pc.toNat = 0x202 := by
  have word : allRandoms.nextWord = 0xCFCF := by
    simp [nextWord, Memory.read, allRandoms]
    decide
  have due : allRandoms.dueFault? = some (.reservedRegister (.random 15 0xCF)) := by
    unfold dueFault?
    rw [word]
    decide
  have raised : allRandoms.step.result = .error ⟨0x200, .reservedRegister (.random 15 0xCF)⟩ := by
    rw [step_result rfl, due]
    rfl
  obtain ⟨-, -, after⟩ := faulting_step_is_atomic allRandoms _ raised
  obtain ⟨machine, pc⟩ := after (by simp)
  refine ⟨raised, ?_, pc⟩
  rw [machine]

end ChipEight.Machine
