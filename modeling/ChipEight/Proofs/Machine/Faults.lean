import ChipEight.Proofs.Storage
import ChipEight.Proofs.Framebuffer.Cell
import ChipEight.Proofs.Machine.Step

/-!
# When a step faults

`dueFault?` lists the faults of a step in the order in which they are looked for; `step_result`
shows that there are no others.
-/

namespace ChipEight.Machine

variable {m : Machine}

/-- The cause for which the next step of an active machine panics, if there is one. -/
def dueFault? (m : Machine) : Option Fault.Cause :=
  let op := classify m.nextWord
  let target := fieldAddress m.nextWord
  let offset := target.val + (m.register indexingRegister).toNat
  if 0xFFE < m.pc.toNat then some .fetchPastEnd
  else if op.hasDestination ∧ fieldX m.nextWord = flagRegister then
    some (.reservedRegister (decode m.nextWord))
  else if op = .unknown then some (.invalidOpcode m.nextWord)
  else if op = .jump ∧ target.val < 0x200 then some (.illegalTarget .jump target.val)
  else if op = .call ∧ target.val < 0x200 then some (.illegalTarget .call target.val)
  else if op = .jumpOffset ∧ ¬(0x200 ≤ offset ∧ offset ≤ 0xFFF) then
    some (.illegalTarget .jumpOffset offset)
  else if op = .call ∧ m.stack.depth = 16 then some (.stackOverflow target)
  else if op = .ret ∧ m.stack.depth = 0 then some .stackUnderflow
  else none

theorem destination?_withOperands (op : Op) (w : UInt16) :
    (op.withOperands w).destination? = if op.hasDestination then some (fieldX w) else none := by
  cases op <;> rfl

theorem executeGuarded_decode (w : UInt16) (m : Machine) :
    executeGuarded (decode w) m =
      if (classify w).hasDestination ∧ fieldX w = flagRegister then
        .error (.reservedRegister (decode w))
      else execute (decode w) m := by
  unfold executeGuarded decode
  rw [destination?_withOperands]
  cases (classify w).hasDestination <;> simp

theorem jump_error_iff {transfer : Transfer} {target : Nat} {cause : Fault.Cause} :
    m.jump transfer target = .error cause ↔
      ¬(0x200 ≤ target ∧ target ≤ 0xFFF) ∧ cause = .illegalTarget transfer target := by
  unfold jump
  rw [checkTarget_eq]
  by_cases legal : 0x200 ≤ target ∧ target ≤ 0xFFF
  · simp [legal]
  · rw [if_neg legal]
    exact ⟨fun h => ⟨legal, (Except.error.inj h).symm⟩, fun h => congrArg _ h.2.symm⟩

theorem call_error_iff {target : Address} {cause : Fault.Cause} :
    m.call target = .error cause ↔
      (target.val < 0x200 ∧ cause = .illegalTarget .call target.val) ∨
      (0x200 ≤ target.val ∧ m.stack.depth = 16 ∧ cause = .stackOverflow target) := by
  have bound := target.isLt
  have depth := m.stack.depth_le
  unfold call
  rw [checkTarget_eq]
  by_cases low : target.val < 0x200
  · have illegal : ¬(0x200 ≤ target.val ∧ target.val ≤ 0xFFF) := by omega
    have not_high : ¬0x200 ≤ target.val := by omega
    rw [if_neg illegal]
    simp only [low, not_high, Except.error.injEq, true_and, false_and, or_false, eq_comm]
  · have legal : 0x200 ≤ target.val ∧ target.val ≤ 0xFFF := by omega
    rw [if_pos legal]
    unfold CallStack.push? stackDepth at *
    by_cases full : m.stack.depth = 16
    · simp [full, low, legal, eq_comm]
    · have room : m.stack.depth < 16 := by omega
      simp [full, low, room]

theorem ret_error_iff {cause : Fault.Cause} :
    m.ret = .error cause ↔ m.stack.depth = 0 ∧ cause = .stackUnderflow := by
  unfold ret CallStack.pop?
  by_cases empty : m.stack.depth = 0
  · simp [empty, eq_comm]
  · have open_call : 0 < m.stack.depth := by omega
    simp [empty, open_call]

/-- The faults after the fetch are those that `dueFault?` lists. -/
theorem executeGuarded_error_iff (whole : m.pc.toNat ≤ 0xFFE) {cause : Fault.Cause} :
    executeGuarded (decode m.nextWord) m.fetched = .error cause ↔ m.dueFault? = some cause := by
  have left : ¬0xFFE < m.pc.toNat := by omega
  rw [executeGuarded_decode]
  unfold dueFault?
  simp only [left, if_false]
  by_cases reserved : (classify m.nextWord).hasDestination ∧ fieldX m.nextWord = flagRegister
  · simp [reserved]
  · simp only [reserved, if_false]
    unfold decode
    -- Five operations can still fail; the others succeed on both sides.
    cases op : classify m.nextWord <;>
      simp only [Op.withOperands, execute, reduceCtorEq, false_and, true_and, if_false, if_true]
    case jump =>
      rw [jump_error_iff, Option.ite_none_right_eq_some, Option.some.injEq, not_and]
      exact and_congr (by omega) eq_comm
    case ret =>
      rw [ret_error_iff, Option.ite_none_right_eq_some, Option.some.injEq]
      exact and_congr Iff.rfl eq_comm
    case call =>
      rw [call_error_iff]
      show _ ∨ (_ ∧ m.stack.depth = 16 ∧ _) ↔ _
      by_cases low : (fieldAddress m.nextWord).val < 0x200
      · have not_high : ¬0x200 ≤ (fieldAddress m.nextWord).val := by omega
        simp only [low, not_high, true_and, false_and, or_false, if_true, Option.some.injEq,
          eq_comm]
      · have high : 0x200 ≤ (fieldAddress m.nextWord).val := by omega
        by_cases full : m.stack.depth = 16
        · simp only [low, high, full, true_and, false_and, false_or, if_true, if_false,
            Option.some.injEq, eq_comm]
        · simp only [low, full, false_and, and_false, or_self, if_false, reduceCtorEq]
    case jumpOffset =>
      rw [jump_error_iff, Option.ite_none_right_eq_some, Option.some.injEq]
      exact and_congr Iff.rfl eq_comm
    case unknown => rw [Except.error.injEq, Option.some.injEq]

theorem executeGuarded_ok (whole : m.pc.toNat ≤ 0xFFE) (free : m.dueFault? = none) :
    ∃ next, executeGuarded (decode m.nextWord) m.fetched = .ok next := by
  cases run : executeGuarded (decode m.nextWord) m.fetched with
  | error cause =>
    rw [(executeGuarded_error_iff whole).mp run] at free
    cases free
  | ok next => exact ⟨next, rfl⟩

/-- What a machine whose next step is due no fault is known for. -/
structure NoFault (m : Machine) : Prop where
  whole : m.pc.toNat ≤ 0xFFE
  kept : (classify m.nextWord).hasDestination → fieldX m.nextWord ≠ flagRegister
  known : classify m.nextWord ≠ .unknown
  jump : classify m.nextWord = .jump → 0x200 ≤ (fieldAddress m.nextWord).val
  call : classify m.nextWord = .call → 0x200 ≤ (fieldAddress m.nextWord).val
  jumpOffset : classify m.nextWord = .jumpOffset →
    0x200 ≤ (fieldAddress m.nextWord).val + (m.register indexingRegister).toNat ∧
      (fieldAddress m.nextWord).val + (m.register indexingRegister).toNat ≤ 0xFFF
  room : classify m.nextWord = .call → m.stack.depth ≠ 16
  opened : classify m.nextWord = .ret → m.stack.depth ≠ 0

theorem noFault_of_dueFault? (free : m.dueFault? = none) : m.NoFault := by
  have next {P : Prop} [Decidable P] {cause : Fault.Cause} {rest : Option Fault.Cause} :
      (if P then some cause else rest) = none ↔ ¬P ∧ rest = none := by
    by_cases holds : P <;> simp [holds]
  unfold dueFault? at free
  simp only [next] at free
  obtain ⟨whole, kept, known, jump, call, jumpOffset, room, opened, -⟩ := free
  exact {
    whole := Nat.not_lt.mp whole
    kept := not_and.mp kept
    known := known
    jump := fun op => Nat.not_lt.mp (not_and.mp jump op)
    call := fun op => Nat.not_lt.mp (not_and.mp call op)
    jumpOffset := fun op => Decidable.not_not.mp (not_and.mp jumpOffset op)
    room := not_and.mp room
    opened := not_and.mp opened }

/-! ### The result of a step -/

theorem step_result (active : m.isStopped = false) :
    m.step.result = match m.dueFault? with
      | some cause => .error ⟨m.pc, cause⟩
      | none => .ok true := by
  by_cases short : 0xFFE < m.pc.toNat
  · rw [step_short active short]
    simp [panicWith, dueFault?, short]
  · have whole : m.pc.toNat ≤ 0xFFE := by omega
    rw [step_whole active whole]
    cases free : m.dueFault? with
    | none =>
      obtain ⟨next, run⟩ := executeGuarded_ok whole free
      rw [run]
    | some cause =>
      rw [(executeGuarded_error_iff whole).mpr free]
      rfl

theorem step_machine_of_due {cause : Fault.Cause} (active : m.isStopped = false)
    (whole : m.pc.toNat ≤ 0xFFE) (due : m.dueFault? = some cause) :
    m.step.machine = { m.fetched with state := .panicked ⟨m.pc, cause⟩ } := by
  rw [step_whole active whole, (executeGuarded_error_iff whole).mpr due]
  rfl

/-- A step that completes no instruction changes nothing, but that it may enter a panic. -/
theorem step_machine_of_not_ok (stuck : m.step.result ≠ .ok true) :
    m.step.machine = m ∨ ∃ fault, m.step.machine = { m with state := .panicked fault } ∨
      m.step.machine = { m.fetched with state := .panicked fault } := by
  cases stopped : m.isStopped with
  | true =>
    rw [step_stopped stopped]
    exact .inl rfl
  | false =>
    rw [step_result stopped] at stuck
    cases due : m.dueFault? with
    | none =>
      rw [due] at stuck
      exact absurd rfl stuck
    | some cause =>
      right
      by_cases short : 0xFFE < m.pc.toNat
      · rw [step_short stopped short]
        exact ⟨_, .inl rfl⟩
      · exact ⟨_, .inr (step_machine_of_due stopped (Nat.not_lt.mp short) due)⟩

/-- So it keeps whatever hangs on none of the four things that a fault may change. -/
theorem step_kept_of_not_ok {α : Type} (f : Machine → α)
    (frame : ∀ (m : Machine) (state : RunState) (pc : UInt16) (count : Nat)
      (last : Option Instruction), f { m with state, pc, count, last } = f m)
    (stuck : m.step.result ≠ .ok true) : f m.step.machine = f m := by
  obtain same | ⟨fault, same | same⟩ := step_machine_of_not_ok stuck
  · rw [same]
  · rw [same]
    exact frame m (.panicked fault) m.pc m.count m.last
  · rw [same]
    exact frame m (.panicked fault) (m.pc + 2) (m.count + 1) (some (decode m.nextWord))

theorem instructionAt_memory (whole : m.pc.toNat ≤ 0xFFE) :
    Disassembly.instructionAt m.memory.toArray m.pc.toNat (m.pc.toNat + 1 : Nat) =
      .ok (decode m.nextWord) := by
  have inside : m.pc.toNat + 1 < m.memory.toArray.size := by
    rw [Vector.size_toArray]
    omega
  rw [Disassembly.instructionAt_natCast inside (by unfold wordBound; omega),
    nextWord_eq (by omega) (by omega)]
  rfl

/-- An active machine panics for the due fault and no other, a stopped one stays as it is, and each
access that is checked as it is made, be it to memory or to the screen, finds its place. -/
theorem step_faults_exactly (m : Machine) :
    (m.state = .idle ∨ m.state = .running →
      m.step.result = match m.dueFault? with
        | some cause => .error ⟨m.pc, cause⟩
        | none => .ok true) ∧
    ((m.state = .halted ∨ ∃ fault, m.state = .panicked fault) → m.step = ⟨.ok false, m, []⟩) ∧
    (m.pc.toNat ≤ 0xFFE →
      Disassembly.instructionAt m.memory.toArray m.pc.toNat (m.pc.toNat + 1 : Nat) =
        .ok (decode m.nextWord)) ∧
    (∀ x y sprite, m.screen.draw x y sprite = .ok (m.screen.blit x y sprite)) ∧
    (m.screen.wrap = true → ∀ x y, (m.screen.cell? x y).isSome) := by
  refine ⟨?_, ?_, instructionAt_memory, ?_, ?_⟩
  · intro active
    exact step_result (isStopped_eq_false.mpr active)
  · intro stopped
    apply step_stopped
    obtain halted | ⟨fault, panicked⟩ := stopped
    · rw [isStopped, halted]
    · rw [isStopped, panicked]
  · intro x y sprite
    exact m.screen.draw_eq_blit x y sprite (by decide) (by decide)
  · intro wrap x y
    exact Framebuffer.isSome_cell? wrap (by decide) (by decide) x y

/-- A machine without a free slot, all words of its memory being `CALL 0x121`. -/
def allCalls : Machine :=
  { powerOn 0 true with
    memory := Vector.replicate 4096 0x21, stack := ⟨Vector.replicate 16 0x202, 16, by decide⟩ }

/-- The target is found to be illegal before the stack is found to be full. -/
theorem step_faults_exactly_on_full_stack :
    allCalls.step.result = .error ⟨0x200, .illegalTarget .call 0x121⟩ ∧
    { allCalls with state := .halted }.step.result = .ok false ∧
    Disassembly.instructionAt allCalls.memory.toArray 0x200 0x201 = .ok (.call 0x121) ∧
    (allCalls.screen.cell? (-1) 40).isSome := by
  have word : allCalls.nextWord = 0x2121 := by
    simp [nextWord, Memory.read, allCalls]
    decide
  have due : allCalls.dueFault? = some (.illegalTarget .call 0x121) := by
    unfold dueFault?
    rw [word]
    decide
  obtain ⟨fault, -, fetch, -, cell⟩ := step_faults_exactly allCalls
  obtain ⟨-, stopped, -⟩ := step_faults_exactly { allCalls with state := .halted }
  refine ⟨?_, ?_, ?_, cell rfl (-1) 40⟩
  · rw [fault (.inl rfl), due]
    rfl
  · rw [stopped (.inl rfl)]
  · rw [word] at fetch
    exact fetch (by decide)

end ChipEight.Machine
