import ChipEight.Proofs.Machine.Faults

/-!
# The effect of a step

What the instruction at the program counter makes of a machine, in terms of the numbers that its
registers hold before and after. What a clause does not mention stays as it was.
-/

namespace ChipEight.Machine

variable {m m' : Machine}

/-- The machine with its next instruction counted and remembered, but without its effect. -/
def noted (m : Machine) : Machine :=
  { m with state := .running, count := m.count + 1, last := some (decode m.nextWord) }

def GoesTo (m m' : Machine) (target : Nat) : Prop :=
  m' = { m.noted with pc := m'.pc } ∧ m'.pc.toNat = target

/-- Register `x`, which is not the flag register, becomes `value`. -/
def Writes (m m' : Machine) (x : Register) (value : Nat) : Prop :=
  m' = { m.noted with pc := m'.pc, registers := m'.registers } ∧
  m'.pc.toNat = m.pc.toNat + 2 ∧
  x ≠ flagRegister ∧
  (m'.register x).toNat = value ∧
  ∀ r, r ≠ x → m'.register r = m.register r

/-- Register `x` and the flag, a single bit, become numbers related by `values`. -/
def WritesFlagged (m m' : Machine) (x : Register) (source : Op) (values : Nat → Nat → Prop) :
    Prop :=
  m' = { m.noted with pc := m'.pc, registers := m'.registers, flagSource := some source } ∧
  m'.pc.toNat = m.pc.toNat + 2 ∧
  x ≠ flagRegister ∧
  values (m'.register x).toNat (m'.register flagRegister).toNat ∧
  (m'.register flagRegister).toNat ≤ 1 ∧
  ∀ r, r ≠ x → r ≠ flagRegister → m'.register r = m.register r

def Clears (m m' : Machine) : Prop :=
  m' = { m.noted with pc := m'.pc, screen := m'.screen } ∧
  m'.pc.toNat = m.pc.toNat + 2 ∧
  m'.screen.wrap = m.screen.wrap ∧
  ∀ i, m'.screen.pixel i = false

def LoadsIndex (m m' : Machine) (value : Nat) : Prop :=
  m' = { m.noted with pc := m'.pc, index := m'.index } ∧
  m'.pc.toNat = m.pc.toNat + 2 ∧
  m'.index.toNat = value

/-- The program counter becomes `target`, and the address after the call is put on the stack. -/
def Calls (m m' : Machine) (target : Nat) : Prop :=
  m' = { m.noted with pc := m'.pc, stack := m'.stack } ∧
  m'.pc.toNat = target ∧
  m'.stack.depth = m.stack.depth + 1 ∧
  ∀ k, (m'.stack.slots.get k).toNat =
    if k.val = m.stack.depth then m.pc.toNat + 2 else (m.stack.slots.get k).toNat

/-- The last address on the stack becomes the program counter. -/
def Returns (m m' : Machine) : Prop :=
  m' = { m.noted with pc := m'.pc, stack := m'.stack } ∧
  m'.stack.depth + 1 = m.stack.depth ∧
  m'.stack.slots = m.stack.slots ∧
  m.stack.slots[m'.stack.depth]? = some m'.pc

/-- The `n` bytes at the index register are drawn at `(x, y)`; a collision raises the flag. -/
def Draws (m m' : Machine) (x y n : Nat) : Prop :=
  let sprite := (List.range n).map fun row => m.memory[(m.index.toNat + row) % 4096]
  let drawn := m.screen.blit x y sprite
  m' = { m.noted with
    pc := m'.pc, registers := m'.registers, screen := drawn.1,
    flagSource := if drawn.2 then some .draw else m.flagSource } ∧
  m'.pc.toNat = m.pc.toNat + 2 ∧
  (m'.register flagRegister).toNat = (if drawn.2 then 1 else (m.register flagRegister).toNat) ∧
  ∀ r, r ≠ flagRegister → m'.register r = m.register r

/-- Executing the instruction at the program counter of `m` leads to `m'`. All operands are read
from `m`. -/
def Effect (m m' : Machine) : Prop :=
  let w := m.nextWord
  let p := m.pc.toNat
  let x := fieldX w
  let y := fieldY w
  let byte := (fieldByte w).toNat
  let address := (fieldAddress w).val
  let v (r : Register) : Nat := (m.register r).toNat
  match classify w with
  | .finish => m' = { m.noted with state := .halted }
  | .sys => m.GoesTo m' (p + 2)
  | .clear => m.Clears m'
  | .ret => m.Returns m'
  | .jump => m.GoesTo m' address
  | .call => m.Calls m' address
  | .skipEqByte => m.GoesTo m' (if v x = byte then p + 4 else p + 2)
  | .skipNeByte => m.GoesTo m' (if v x ≠ byte then p + 4 else p + 2)
  | .skipEqReg => m.GoesTo m' (if v x = v y then p + 4 else p + 2)
  | .skipNeReg => m.GoesTo m' (if v x ≠ v y then p + 4 else p + 2)
  | .loadByte => m.Writes m' x byte
  | .addByte => m.Writes m' x ((v x + byte) % 256)
  | .loadReg => m.Writes m' x (v y)
  | .or => m.Writes m' x (v x ||| v y)
  | .and => m.Writes m' x (v x &&& v y)
  | .xor => m.Writes m' x (v x ^^^ v y)
  | .addReg => m.WritesFlagged m' x .addReg fun vx vf => vx + 256 * vf = v x + v y
  | .sub => m.WritesFlagged m' x .sub fun vx vf =>
      (vx : Int) = ((v x : Int) - v y) % 256 ∧ (vf = 1 ↔ v x > v y)
  | .shiftRight => m.WritesFlagged m' x .shiftRight fun vx vf => 2 * vx + vf = v x
  | .subFrom => m.WritesFlagged m' x .subFrom fun vx vf =>
      (vx : Int) = ((v y : Int) - v x) % 256 ∧ (vf = 1 ↔ v y > v x)
  | .shiftLeft => m.WritesFlagged m' x .shiftLeft fun vx vf => vx + 256 * vf = 2 * v x
  | .loadIndex => m.LoadsIndex m' address
  | .jumpOffset => m.GoesTo m' (address + v indexingRegister)
  | .random =>
    -- The byte is the generator's next one, and the generator has moved past it.
    { m with random := m.random.byte.2 }.Writes m' x (m.random.byte.1.toNat &&& byte)
  | .draw => m.Draws m' (v x) (v y) (fieldN w)
  | .unknown => False

/-! ### Control -/

theorem goesTo_fetched (whole : m.pc.toNat ≤ 0xFFE) : m.GoesTo m.fetched (m.pc.toNat + 2) :=
  ⟨rfl, pc_fetched whole⟩

theorem goesTo_skipIf (whole : m.pc.toNat ≤ 0xFFE) {condition : Bool} {P : Prop} [Decidable P]
    (same : condition = true ↔ P) :
    m.GoesTo (m.fetched.skipIf condition) (if P then m.pc.toNat + 4 else m.pc.toNat + 2) := by
  have past := pc_fetched whole
  cases condition with
  | false =>
    rw [if_neg (mt same.mpr Bool.false_ne_true)]
    exact goesTo_fetched whole
  | true =>
    rw [if_pos (same.mp rfl)]
    refine ⟨rfl, ?_⟩
    show (m.fetched.pc + 2).toNat = _
    rw [UInt16.toNat_add, past]
    exact Nat.mod_eq_of_lt (by show m.pc.toNat + 2 + 2 < 65536; omega)

theorem goesTo_jump {transfer : Transfer} {target : Nat}
    (run : m.fetched.jump transfer target = .ok m') : m.GoesTo m' target := by
  unfold jump at run
  rw [checkTarget_eq] at run
  by_cases legal : 0x200 ≤ target ∧ target ≤ 0xFFF
  · rw [if_pos legal] at run
    cases run
    have word : target < UInt16.size := by
      show target < 65536
      omega
    exact ⟨rfl, UInt16.toNat_ofNat_of_lt' word⟩
  · rw [if_neg legal] at run
    cases run

theorem rewind_fetched :
    { m.fetched with pc := m.fetched.pc - 2, state := .halted } =
      { m.noted with state := .halted } := by
  have back : m.fetched.pc - 2 = m.pc := UInt16.add_sub_cancel _ _
  rw [back]
  rfl

theorem toNat_address (target : Address) : (UInt16.ofNat target.val).toNat = target.val := by
  have below := target.isLt
  have word : target.val < UInt16.size := by
    show target.val < 65536
    omega
  exact UInt16.toNat_ofNat_of_lt' word

theorem calls_call {target : Address} (whole : m.pc.toNat ≤ 0xFFE)
    (run : m.fetched.call target = .ok m') : m.Calls m' target.val := by
  have past := pc_fetched whole
  unfold call at run
  rw [checkTarget_eq] at run
  by_cases legal : 0x200 ≤ target.val ∧ target.val ≤ 0xFFF
  · rw [if_pos legal] at run
    unfold CallStack.push? at run
    by_cases room : m.stack.depth < stackDepth
    · simp only [show m.fetched.stack = m.stack from rfl, room, dif_pos, Except.ok.injEq] at run
      subst run
      refine ⟨rfl, toNat_address target, rfl, ?_⟩
      intro k
      show (m.stack.slots.set m.stack.depth m.fetched.pc room)[k.val].toNat = _
      rw [Vector.getElem_set]
      by_cases top : k.val = m.stack.depth
      · rw [if_pos top.symm, if_pos top]
        exact past
      · rw [if_neg (Ne.symm top), if_neg top]
        rfl
    · simp [fetched, room] at run
  · rw [if_neg legal] at run
    cases run

theorem returns_ret (run : m.fetched.ret = .ok m') : m.Returns m' := by
  have depth := m.stack.depth_le
  unfold ret CallStack.pop? at run
  by_cases open_call : 0 < m.stack.depth
  · simp only [show m.fetched.stack = m.stack from rfl, open_call, dif_pos, Except.ok.injEq] at run
    subst run
    refine ⟨rfl, Nat.sub_add_cancel open_call, rfl, ?_⟩
    exact Vector.getElem?_eq_getElem (by show m.stack.depth - 1 < stackDepth; omega)
  · simp [fetched, open_call] at run

/-! ### Registers -/

theorem writes_setRegister {x : Register} {value : UInt8} {n : Nat} (whole : m.pc.toNat ≤ 0xFFE)
    (kept : x ≠ flagRegister) (same : value.toNat = n) :
    m.Writes (m.fetched.setRegister x value) x n := by
  refine ⟨rfl, pc_fetched whole, kept, ?_, ?_⟩
  · simp [same]
  · intro r other
    rw [register_setRegister, if_neg other]
    rfl

theorem writes_storeRandom {x : Register} (whole : m.pc.toNat ≤ 0xFFE) (kept : x ≠ flagRegister)
    (mask : UInt8) :
    { m with random := m.random.byte.2 }.Writes (m.fetched.storeRandom x mask) x
      (m.random.byte.1.toNat &&& mask.toNat) := by
  unfold storeRandom
  rw [show m.fetched.random = m.random from rfl]
  -- The generator stays closed, or the comparison of the two machines would run it.
  generalize m.random.byte = drawn
  exact writes_setRegister (m := { m with random := drawn.2 }) whole kept (UInt8.toNat_and _ _)

theorem writesFlagged_setFlag {x : Register} {value : UInt8} {source : Op}
    {values : Nat → Nat → Prop} {P : Prop} [Decidable P] (whole : m.pc.toNat ≤ 0xFFE)
    (kept : x ≠ flagRegister) (related : values value.toNat (if P then 1 else 0)) :
    m.WritesFlagged ((m.fetched.setRegister x value).setFlag P source) x source values := by
  refine ⟨rfl, pc_fetched whole, kept, ?_, ?_, ?_⟩
  · simpa [kept, apply_ite UInt8.toNat] using related
  · by_cases raised : P <;> simp [raised]
  · intro r other not_flag
    rw [register_setFlag, if_neg not_flag, register_setRegister, if_neg other]
    rfl

theorem draws_draw (whole : m.pc.toNat ≤ 0xFFE) (x y : Register) (height : Nibble) :
    m.Draws (m.fetched.draw x y height) (m.register x).toNat (m.register y).toNat height := by
  have sprite : m.memory.readBytes m.index.toNat height.val =
      (List.range height.val).map fun row => m.memory[(m.index.toNat + row) % 4096] :=
    Memory.readBytes_natCast _ _ _
  have drawn : m.fetched.draw x y height =
      let drawn := m.screen.blit (m.register x).toNat (m.register y).toNat
        (m.memory.readBytes m.index.toNat height.val)
      if drawn.2 then { m.fetched with screen := drawn.1 }.setFlag true .draw
      else { m.fetched with screen := drawn.1 } := rfl
  unfold Draws
  rw [← sprite, drawn]
  dsimp only
  split
  · refine ⟨rfl, pc_fetched whole, by simp, ?_⟩
    intro r other
    rw [register_setFlag, if_neg other]
    rfl
  · exact ⟨rfl, pc_fetched whole, rfl, fun _ _ => rfl⟩

theorem clears_clear (whole : m.pc.toNat ≤ 0xFFE) :
    m.Clears { m.fetched with screen := m.fetched.screen.clear } := by
  refine ⟨rfl, pc_fetched whole, rfl, ?_⟩
  intro i
  exact Vector.getElem_replicate _

theorem loadsIndex_address (whole : m.pc.toNat ≤ 0xFFE) (target : Address) :
    m.LoadsIndex { m.fetched with index := UInt16.ofNat target.val } target.val :=
  ⟨rfl, pc_fetched whole, toNat_address target⟩

/-! ### Arithmetic -/

theorem add_flag (a b : UInt8) :
    (a + b).toNat + 256 * (if 255 < a.toNat + b.toNat then 1 else 0) = a.toNat + b.toNat := by
  have ha := a.toNat_lt
  have hb := b.toNat_lt
  rw [UInt8.toNat_add]
  split <;> omega

theorem sub_flag (a b : UInt8) :
    ((a - b).toNat : Int) = ((a.toNat : Int) - b.toNat) % 256 ∧
      ((if b < a then 1 else 0) = 1 ↔ a.toNat > b.toNat) := by
  have ha := a.toNat_lt
  have hb := b.toNat_lt
  constructor
  · rw [UInt8.toNat_sub]
    omega
  · simp only [UInt8.lt_iff_toNat_lt]
    split <;> omega

theorem shiftRight_flag (a : UInt8) :
    2 * (a >>> 1).toNat + (if a &&& 1 = 1 then 1 else 0) = a.toNat := by
  have half : (a >>> 1).toNat = a.toNat / 2 := by
    rw [UInt8.toNat_shiftRight]
    exact Nat.shiftRight_eq_div_pow _ 1
  have low : a &&& 1 = 1 ↔ a.toNat % 2 = 1 := by
    rw [← UInt8.toNat_inj, UInt8.toNat_and]
    exact Iff.of_eq (congrArg (· = 1) (Nat.and_one_is_mod _))
  simp only [half, low]
  split <;> omega

theorem shiftLeft_flag (a : UInt8) :
    (a <<< 1).toNat + 256 * (if a >>> 7 = 1 then 1 else 0) = 2 * a.toNat := by
  have ha := a.toNat_lt
  have twice : (a <<< 1).toNat = a.toNat * 2 % 256 := by
    rw [UInt8.toNat_shiftLeft]
    exact congrArg (· % 256) (Nat.shiftLeft_eq _ 1)
  have high : a >>> 7 = 1 ↔ a.toNat / 128 = 1 := by
    rw [← UInt8.toNat_inj, UInt8.toNat_shiftRight]
    exact Iff.of_eq (congrArg (· = 1) (Nat.shiftRight_eq_div_pow _ 7))
  simp only [twice, high]
  split <;> omega

/-! ### Steps -/

theorem effect_of_execute (free : m.dueFault? = none)
    (run : executeGuarded (decode m.nextWord) m.fetched = .ok m') : m.Effect m' := by
  have whole := (noFault_of_dueFault? free).whole
  have kept := (noFault_of_dueFault? free).kept
  rw [executeGuarded_decode, if_neg (not_and.mpr kept)] at run
  unfold decode at run
  unfold Effect
  dsimp only
  -- A word that is no instruction leaves no case: executing it is an error.
  cases op : classify m.nextWord <;>
    simp only [op, Op.withOperands, execute, Except.ok.injEq, reduceCtorEq] at run kept ⊢
  case finish => exact run ▸ rewind_fetched
  case sys => exact run ▸ goesTo_fetched whole
  case clear => exact run ▸ clears_clear whole
  case ret => exact returns_ret run
  case jump => exact goesTo_jump run
  case call => exact calls_call whole run
  case skipEqByte | skipEqReg =>
    rw [← run]
    exact goesTo_skipIf whole (beq_iff_eq.trans UInt8.toNat_inj.symm)
  case skipNeByte | skipNeReg =>
    rw [← run]
    exact goesTo_skipIf whole (bne_iff_ne.trans (not_congr UInt8.toNat_inj.symm))
  case loadByte | loadReg => exact run ▸ writes_setRegister whole (kept rfl) rfl
  case addByte => exact run ▸ writes_setRegister whole (kept rfl) (UInt8.toNat_add _ _)
  case or => exact run ▸ writes_setRegister whole (kept rfl) (UInt8.toNat_or _ _)
  case and => exact run ▸ writes_setRegister whole (kept rfl) (UInt8.toNat_and _ _)
  case xor => exact run ▸ writes_setRegister whole (kept rfl) (UInt8.toNat_xor _ _)
  case addReg => exact run ▸ writesFlagged_setFlag whole (kept rfl) (add_flag _ _)
  case sub | subFrom => exact run ▸ writesFlagged_setFlag whole (kept rfl) (sub_flag _ _)
  case shiftRight => exact run ▸ writesFlagged_setFlag whole (kept rfl) (shiftRight_flag _)
  case shiftLeft => exact run ▸ writesFlagged_setFlag whole (kept rfl) (shiftLeft_flag _)
  case loadIndex => exact run ▸ loadsIndex_address whole _
  case jumpOffset => exact goesTo_jump run
  case random => exact run ▸ writes_storeRandom whole (kept rfl) _
  case draw => exact run ▸ draws_draw whole _ _ _

theorem step_machine (active : m.isStopped = false) (free : m.dueFault? = none) :
    executeGuarded (decode m.nextWord) m.fetched = .ok m.step.machine := by
  have whole := (noFault_of_dueFault? free).whole
  obtain ⟨next, run⟩ := executeGuarded_ok whole free
  rw [step_whole active whole, run]

theorem step_effect (active : m.isStopped = false) (free : m.dueFault? = none) :
    m.Effect m.step.machine :=
  effect_of_execute free (step_machine active free)

theorem step_call (active : m.isStopped = false) (free : m.dueFault? = none)
    (op : classify m.nextWord = .call) : m.Calls m.step.machine (fieldAddress m.nextWord) := by
  have effect := step_effect active free
  unfold Effect at effect
  simpa only [op] using effect

/-- A step that does not panic has the effect that the reference semantics gives it. -/
theorem step_refines_reference (active : m.state = .idle ∨ m.state = .running)
    (free : ∀ fault, m.step.result ≠ .error fault) :
    m.step.result = .ok true ∧ m.Effect m.step.machine := by
  have going := isStopped_eq_false.mpr active
  have result := step_result going
  cases due : m.dueFault? with
  | some cause =>
    rw [due] at result
    exact absurd result (free _)
  | none =>
    rw [due] at result
    exact ⟨result, step_effect going due⟩

/-- A machine with `ADD V4, V8` in all words of its memory, and numbers whose sum is no byte. -/
def allAdditions : Machine :=
  { powerOn 0 false with
    memory := Vector.replicate 4096 0x84,
    registers := ((Vector.replicate 16 0).set 4 200).set 8 100 }

theorem step_refines_reference_on_carry :
    allAdditions.step.result = .ok true ∧
    (allAdditions.step.machine.register 4).toNat +
      256 * (allAdditions.step.machine.register flagRegister).toNat = 300 := by
  have word : allAdditions.nextWord = 0x8484 := by
    simp [nextWord, Memory.read, allAdditions]
    decide
  have due : allAdditions.dueFault? = none := by
    unfold dueFault?
    rw [word]
    decide
  have free : ∀ fault, allAdditions.step.result ≠ .error fault := by
    intro fault
    rw [step_result rfl, due]
    intro same
    cases same
  have op : classify 0x8484 = .addReg := by decide
  have x : fieldX 0x8484 = 4 := by decide
  have y : fieldY 0x8484 = 8 := by decide
  have old_x : allAdditions.register 4 = 200 := rfl
  have old_y : allAdditions.register 8 = 100 := rfl
  have refined := step_refines_reference (.inl rfl) free
  simp only [Effect, word, op, x, y, old_x, old_y] at refined
  obtain ⟨done, -, -, -, sum, -⟩ := refined
  exact ⟨done, sum⟩

end ChipEight.Machine
