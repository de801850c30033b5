import ChipEight.Proofs.Machine.Effect
import ChipEight.Proofs.Machine.History

/-!
# Bounds

The numbers that a machine can reach from power-on. The bounds hold each other up: a return is as
good as the addresses on the stack, a call pushes what the fetch left, and the flag register stays a
flag because no instruction may name it as its destination.
-/

namespace ChipEight.Machine

variable {m m' : Machine}

structure WithinBounds (m : Machine) : Prop where
  flag : (m.register flagRegister).toNat ≤ 1
  index : m.index.toNat ≤ 0xFFF
  pc_lower : 0x200 ≤ m.pc.toNat
  pc_upper : m.pc.toNat ≤ 0x1002
  returns : ∀ k : Fin stackDepth, k.val < m.stack.depth →
    0x202 ≤ (m.stack.slots.get k).toNat ∧ (m.stack.slots.get k).toNat ≤ 0x1000

theorem withinBounds_powerOn (seed : Int) (wrap : Bool) : (powerOn seed wrap).WithinBounds where
  flag := Nat.zero_le 1
  index := Nat.zero_le _
  pc_lower := Nat.le_refl _
  pc_upper := by
    show 0x200 ≤ 0x1002
    decide
  returns := fun _ none_open => absurd none_open (Nat.not_lt_zero _)

namespace WithinBounds

/-! ### Effects -/

variable {framed : Machine}

theorem flag_of_frame (h : m.WithinBounds) (frame : m' = framed)
    (registers : framed.registers = m.registers) : (m'.register flagRegister).toNat ≤ 1 := by
  rw [frame, register, registers]
  exact h.flag

theorem of_frame (h : m.WithinBounds) (frame : m' = framed) (index : framed.index = m.index)
    (stack : framed.stack = m.stack) (flag : (m'.register flagRegister).toNat ≤ 1)
    (lower : 0x200 ≤ m'.pc.toNat) (upper : m'.pc.toNat ≤ 0x1002) : m'.WithinBounds := by
  refine ⟨flag, ?_, lower, upper, ?_⟩
  · rw [frame, index]
    exact h.index
  · rw [frame, stack]
    exact h.returns

theorem of_goesTo {target : Nat} (h : m.WithinBounds) (goes : m.GoesTo m' target)
    (lower : 0x200 ≤ target) (upper : target ≤ 0x1002) : m'.WithinBounds := by
  obtain ⟨frame, pc⟩ := goes
  exact h.of_frame frame rfl rfl (h.flag_of_frame frame rfl) (by omega) (by omega)

theorem of_writes {x : Register} {value : Nat} (h : m.WithinBounds) (whole : m.pc.toNat ≤ 0xFFE)
    (writes : m.Writes m' x value) : m'.WithinBounds := by
  obtain ⟨frame, pc, kept, -, others⟩ := writes
  have lower := h.pc_lower
  refine h.of_frame frame rfl rfl ?_ (by omega) (by omega)
  rw [others flagRegister kept.symm]
  exact h.flag

theorem of_writesFlagged {x : Register} {source : Op} {values : Nat → Nat → Prop}
    (h : m.WithinBounds) (whole : m.pc.toNat ≤ 0xFFE)
    (writes : m.WritesFlagged m' x source values) : m'.WithinBounds := by
  obtain ⟨frame, pc, -, -, flag, -⟩ := writes
  have lower := h.pc_lower
  exact h.of_frame frame rfl rfl flag (by omega) (by omega)

theorem of_clears (h : m.WithinBounds) (whole : m.pc.toNat ≤ 0xFFE) (clears : m.Clears m') :
    m'.WithinBounds := by
  obtain ⟨frame, pc, -, -⟩ := clears
  have lower := h.pc_lower
  exact h.of_frame frame rfl rfl (h.flag_of_frame frame rfl) (by omega) (by omega)

theorem of_loadsIndex {value : Nat} (h : m.WithinBounds) (whole : m.pc.toNat ≤ 0xFFE)
    (loads : m.LoadsIndex m' value) (upper : value ≤ 0xFFF) : m'.WithinBounds := by
  obtain ⟨frame, pc, index⟩ := loads
  have lower := h.pc_lower
  refine ⟨h.flag_of_frame frame rfl, by omega, by omega, by omega, ?_⟩
  rw [frame]
  exact h.returns

theorem of_draws {x y n : Nat} (h : m.WithinBounds) (whole : m.pc.toNat ≤ 0xFFE)
    (draws : m.Draws m' x y n) : m'.WithinBounds := by
  obtain ⟨frame, pc, flag, -⟩ := draws
  have lower := h.pc_lower
  have old_flag := h.flag
  refine h.of_frame frame rfl rfl ?_ (by omega) (by omega)
  rw [flag]
  split <;> omega

theorem of_calls {target : Nat} (h : m.WithinBounds) (whole : m.pc.toNat ≤ 0xFFE)
    (calls : m.Calls m' target) (lower : 0x200 ≤ target) (upper : target ≤ 0x1002) :
    m'.WithinBounds := by
  obtain ⟨frame, pc, depth, slots⟩ := calls
  have old_lower := h.pc_lower
  refine ⟨h.flag_of_frame frame rfl, ?_, by omega, by omega, ?_⟩
  · rw [frame]
    exact h.index
  · intro k below
    rw [slots k]
    by_cases top : k.val = m.stack.depth
    · rw [if_pos top]
      omega
    · rw [if_neg top]
      exact h.returns k (by omega)

theorem of_returns (h : m.WithinBounds) (returns : m.Returns m') : m'.WithinBounds := by
  obtain ⟨frame, depth, slots, top⟩ := returns
  obtain ⟨inside, pc⟩ := Vector.getElem?_eq_some_iff.mp top
  have bounds := h.returns ⟨m'.stack.depth, inside⟩ (by show m'.stack.depth < m.stack.depth; omega)
  have same : m.stack.slots.get ⟨m'.stack.depth, inside⟩ = m'.pc := pc
  rw [same] at bounds
  refine ⟨h.flag_of_frame frame rfl, ?_, by omega, by omega, ?_⟩
  · rw [frame]
    exact h.index
  · intro k below
    rw [slots]
    exact h.returns k (by omega)

theorem of_random (h : m.WithinBounds) (random : Random.Generator) :
    { m with random }.WithinBounds :=
  ⟨h.flag, h.index, h.pc_lower, h.pc_upper, h.returns⟩

theorem of_memory (h : m.WithinBounds) (memory : Memory) : { m with memory }.WithinBounds :=
  ⟨h.flag, h.index, h.pc_lower, h.pc_upper, h.returns⟩

theorem of_state (h : m.WithinBounds) (state : RunState) : { m with state }.WithinBounds :=
  ⟨h.flag, h.index, h.pc_lower, h.pc_upper, h.returns⟩

theorem of_fetched (h : m.WithinBounds) (whole : m.pc.toNat ≤ 0xFFE) : m.fetched.WithinBounds := by
  have lower := h.pc_lower
  have past := pc_fetched whole
  exact ⟨h.flag, h.index, by omega, by omega, h.returns⟩

theorem of_effect (h : m.WithinBounds) (free : m.NoFault) (effect : m.Effect m') :
    m'.WithinBounds := by
  have whole := free.whole
  have lower := h.pc_lower
  have below := (fieldAddress m.nextWord).isLt
  unfold Effect at effect
  dsimp only at effect
  cases op : classify m.nextWord <;> simp only [op] at effect
  case finish =>
    rw [effect]
    exact ⟨h.flag, h.index, h.pc_lower, h.pc_upper, h.returns⟩
  case sys => exact h.of_goesTo effect (by omega) (by omega)
  case clear => exact h.of_clears whole effect
  case ret => exact h.of_returns effect
  case jump => exact h.of_goesTo effect (free.jump op) (by omega)
  case call => exact h.of_calls whole effect (free.call op) (by omega)
  case jumpOffset =>
    obtain ⟨target_lower, target_upper⟩ := free.jumpOffset op
    exact h.of_goesTo effect target_lower (by omega)
  case skipEqByte | skipNeByte | skipEqReg | skipNeReg =>
    exact h.of_goesTo effect (by split <;> omega) (by split <;> omega)
  case loadByte | addByte | loadReg | or | and | xor => exact h.of_writes whole effect
  case random => exact (h.of_random m.random.byte.2).of_writes whole effect
  case addReg | sub | shiftRight | subFrom | shiftLeft => exact h.of_writesFlagged whole effect
  case loadIndex => exact h.of_loadsIndex whole effect (by omega)
  case draw => exact h.of_draws whole effect

/-! ### Operations -/

theorem start (h : m.WithinBounds) : m.start.machine.WithinBounds := by
  unfold Machine.start
  split
  · exact h
  · exact h.of_state .running

theorem stop (h : m.WithinBounds) : m.stop.machine.WithinBounds := by
  unfold Machine.stop
  split
  · exact h
  · exact h.of_state .halted

theorem fetch {bytes : UInt8 × UInt8} (h : m.WithinBounds) (read : m.fetch = .ok (bytes, m')) :
    m'.WithinBounds := by
  unfold Machine.fetch at read
  split at read
  · rename_i left
    obtain ⟨-, rfl⟩ := Prod.mk.inj (Except.ok.inj read)
    have fetched := h.of_fetched (by omega)
    exact ⟨h.flag, h.index, fetched.pc_lower, fetched.pc_upper, h.returns⟩
  · cases read

theorem step (h : m.WithinBounds) : m.step.machine.WithinBounds := by
  cases stopped : m.isStopped with
  | true =>
    rw [step_stopped stopped]
    exact h
  | false =>
    by_cases short : 0xFFE < m.pc.toNat
    · rw [step_short stopped short]
      exact h.of_state _
    · have whole : m.pc.toNat ≤ 0xFFE := Nat.not_lt.mp short
      cases due : m.dueFault? with
      | none => exact h.of_effect (noFault_of_dueFault? due) (step_effect stopped due)
      | some cause =>
        rw [step_machine_of_due stopped whole due]
        exact (h.of_fetched whole).of_state _

theorem perform (h : m.WithinBounds) (operation : Operation) :
    (m.perform operation).WithinBounds := by
  cases operation with
  | load image => exact h.of_memory (m.memory.load image)
  | writeBytes a bytes => exact h.of_memory (m.memory.writeBytes a bytes)
  | start | resume => exact h.start
  | stop => exact h.stop
  | reset => exact withinBounds_powerOn m.seed m.screen.wrap
  | fetch =>
    unfold Machine.perform
    dsimp only
    split
    · rename_i read
      exact h.fetch read
    · exact h
  | step => exact h.step
  | run limit => exact run_preserves (fun _ => step) h _

theorem flag_eq (h : m.WithinBounds) :
    m.register flagRegister = 0 ∨ m.register flagRegister = 1 := by
  have bit := h.flag
  by_cases lowered : (m.register flagRegister).toNat = 0
  · exact .inl (UInt8.toNat_inj.mp lowered)
  · have raised : (m.register flagRegister).toNat = 1 := by omega
    exact .inr (UInt8.toNat_inj.mp raised)

end WithinBounds

theorem withinBounds_performAll (seed : Int) (wrap : Bool) (operations : List Operation) :
    ((powerOn seed wrap).performAll operations).WithinBounds :=
  performAll_preserves (fun _ operation h => h.perform operation) (withinBounds_powerOn seed wrap)
    operations

theorem text_eq_panicked (state : RunState) : state.text = "panicked" ↔ state.fault?.isSome := by
  cases state <;> simp [RunState.text, RunState.fault?]

/-- Whatever a host asks of a machine and in whatever order, all parts of the machine keep their
sizes and their ranges. -/
theorem bounds_after_any_operations (seed : Int) (wrap : Bool) (operations : List Operation) :
    let m := (powerOn seed wrap).performAll operations
    (m.registers.toList.length = 16 ∧ ∀ r, (m.register r).toNat ≤ 255) ∧
    (m.register flagRegister = 0 ∨ m.register flagRegister = 1) ∧
    m.index.toNat ≤ 0xFFF ∧
    (0x200 ≤ m.pc.toNat ∧ m.pc.toNat ≤ 0x1002) ∧
    m.stack.depth ≤ 16 ∧
    m.stack.slots.toList.length = 16 ∧
    (∀ k : Fin stackDepth, k.val < m.stack.depth →
      0x202 ≤ (m.stack.slots.get k).toNat ∧ (m.stack.slots.get k).toNat ≤ 0x1000) ∧
    m.memory.toList.length = 4096 ∧
    m.screen.pixels.toList.length = 2048 ∧
    (m.state.text = "panicked" ↔ m.state.fault?.isSome) := by
  intro m
  have h : m.WithinBounds := withinBounds_performAll seed wrap operations
  have bytes : ∀ r, (m.register r).toNat ≤ 255 := fun r => Nat.le_of_lt_succ (m.register r).toNat_lt
  exact ⟨⟨Vector.length_toList, bytes⟩, h.flag_eq, h.index, ⟨h.pc_lower, h.pc_upper⟩,
    m.stack.depth_le, Vector.length_toList, h.returns, Vector.length_toList, Vector.length_toList,
    text_eq_panicked m.state⟩

/-- A machine with the program `CALL 0x204`. -/
def oneCall : Machine := (powerOn 0 false).perform (.load #[0x22, 0x04])

theorem bounds_after_any_operations_on_call :
    let m := (powerOn 0 false).performAll [.load #[0x22, 0x04], .step]
    ∃ k : Fin stackDepth, k.val < m.stack.depth ∧
      0x202 ≤ (m.stack.slots.get k).toNat ∧ (m.stack.slots.get k).toNat ≤ 0x1000 := by
  have high : oneCall.memory.read 0x200 = 0x22 := Memory.read_load _ _ (by decide) (by decide)
  have low : oneCall.memory.read 0x201 = 0x04 := Memory.read_load _ _ (by decide) (by decide)
  have word : oneCall.nextWord = 0x2204 := by
    show wordOfBytes (oneCall.memory.read 0x200) (oneCall.memory.read 0x201) = 0x2204
    rw [high, low]
    decide
  have op : classify oneCall.nextWord = .call := by
    rw [word]
    decide
  have free : oneCall.dueFault? = none := by
    unfold dueFault?
    rw [word]
    decide
  have reached :
      (powerOn 0 false).performAll [.load #[0x22, 0x04], .step] = oneCall.step.machine := by
    rw [performAll, List.foldl_cons, List.foldl_cons, List.foldl_nil, perform_step, oneCall]
  have pushed : 0 < ((powerOn 0 false).performAll [.load #[0x22, 0x04], .step]).stack.depth := by
    obtain ⟨-, -, depth, -⟩ := step_call (show oneCall.isStopped = false from rfl) free op
    rw [reached, depth]
    exact Nat.succ_pos _
  obtain ⟨-, -, -, -, -, -, returns, -⟩ :=
    bounds_after_any_operations 0 false [.load #[0x22, 0x04], .step]
  exact ⟨⟨0, by decide⟩, pushed, returns ⟨0, by decide⟩ pushed⟩

end ChipEight.Machine
