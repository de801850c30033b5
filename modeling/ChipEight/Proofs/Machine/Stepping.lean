import ChipEight.Proofs.Machine.RunStates

/-!
# Machines step after step

`Stepped` says once what a step can come to: it finds the machine stopped, it fails with or without
having fetched a word, or it completes an instruction. From there a number of steps, taken whatever
they come to, is what a run of that length makes of a machine (`run_eq`).
-/

namespace ChipEight

def Event.execution? : Event → Option (UInt16 × Instruction)
  | executing pc i => some (pc, i)
  | _ => none

/-- The instructions that were about to take effect, each with its address. -/
def executions (events : List Event) : List (UInt16 × Instruction) :=
  events.filterMap Event.execution?

theorem executions_append (first second : List Event) :
    executions (first ++ second) = executions first ++ executions second :=
  List.filterMap_append

namespace Machine

variable {m m' : Machine}

/-! ### One step -/

/-- What a step can come to. -/
inductive Stepped (m : Machine) : Outcome Bool → Prop where
  | stopped (stopped : m.isStopped = true) : Stepped m ⟨.ok false, m, []⟩
  | short (active : m.isStopped = false) (short : 0xFFE < m.pc.toNat) :
      Stepped m (m.panicWith ⟨m.pc, .fetchPastEnd⟩ [])
  | faulted {cause : Fault.Cause} (active : m.isStopped = false) (whole : m.pc.toNat ≤ 0xFFE) :
      Stepped m (m.fetched.panicWith ⟨m.pc, cause⟩ [.executing m.pc (decode m.nextWord)])
  | completed {next : Machine} (active : m.isStopped = false) (whole : m.pc.toNat ≤ 0xFFE)
      (effect : m.Effect next) :
      Stepped m ⟨.ok true, next, .executing m.pc (decode m.nextWord) ::
        if classify m.nextWord = .finish then [.halted m.pc .endOfProgram] else []⟩

theorem stepped_step (m : Machine) : Stepped m m.step := by
  cases stopped : m.isStopped with
  | true =>
    rw [step_stopped stopped]
    exact .stopped stopped
  | false =>
    by_cases short : 0xFFE < m.pc.toNat
    · rw [step_short stopped short]
      exact .short stopped short
    have whole := Nat.not_lt.mp short
    cases due : m.dueFault? with
    | some cause =>
      rw [step_whole stopped whole, (executeGuarded_error_iff whole).mpr due]
      exact .faulted stopped whole
    | none =>
      have result : m.step.result = .ok true := by rw [step_result stopped, due]
      have completed := Stepped.completed stopped whole (step_effect stopped due)
      rw [← events_step stopped due, ← result] at completed
      exact completed

/-- An instruction that completes leaves the memory alone and is counted and remembered. -/
theorem kept_of_effect (effect : m.Effect m') :
    m'.memory = m.memory ∧ m'.count = m.count + 1 ∧ m'.last = some (decode m.nextWord) := by
  have kept : ∀ {framed : Machine}, m' = framed → framed.memory = m.memory →
      framed.count = m.count + 1 → framed.last = some (decode m.nextWord) →
      m'.memory = m.memory ∧ m'.count = m.count + 1 ∧ m'.last = some (decode m.nextWord) := by
    rintro _ rfl memory count last
    exact ⟨memory, count, last⟩
  unfold Effect at effect
  dsimp only at effect
  cases op : classify m.nextWord <;> simp only [op] at effect
  case finish => exact kept effect rfl rfl rfl
  all_goals exact kept effect.1 rfl rfl rfl

theorem memory_step (m : Machine) : m.step.machine.memory = m.memory := by
  have stepped := m.stepped_step
  generalize m.step = outcome at stepped
  cases stepped with
  | stopped | short | faulted => rfl
  | completed _ _ effect => exact (kept_of_effect effect).1

theorem count_step (m : Machine) :
    m.step.machine.count = m.count + (executions m.step.events).length := by
  have stepped := m.stepped_step
  generalize m.step = outcome at stepped
  cases stepped with
  | stopped | short | faulted => rfl
  | completed _ _ effect =>
    rw [(kept_of_effect effect).2.1]
    split <;> rfl

theorem fault?_of_effect (effect : m.Effect m') : m'.state.fault? = none := by
  rw [state_of_effect effect]
  split <;> rfl

/-- A step of a machine that has not panicked fails with the fault that it enters, if any. -/
theorem fault?_step (calm : m.state.fault? = none) :
    m.step.machine.state.fault? = match m.step.result with
      | .error fault => some fault
      | .ok _ => none := by
  have stepped := m.stepped_step
  generalize m.step = outcome at stepped
  cases stepped with
  | stopped => exact calm
  | short | faulted => rfl
  | completed _ _ effect => exact fault?_of_effect effect

/-- An active machine panics or completes an instruction. -/
theorem step_of_active (active : m.isStopped = false) :
    (∃ fault, m.step.result = .error fault ∧ m.step.machine.state = .panicked fault) ∨
    m.step.result = .ok true ∧ m.step.machine.state.fault? = none := by
  have stepped := m.stepped_step
  generalize m.step = outcome at stepped
  cases stepped with
  | stopped stopped =>
    rw [active] at stopped
    cases stopped
  | short | faulted => exact .inl ⟨_, rfl, rfl⟩
  | completed _ _ effect => exact .inr ⟨rfl, fault?_of_effect effect⟩

theorem isStopped_iff_of_calm (calm : m.state.fault? = none) :
    m.isStopped = true ↔ m.state = .halted := by
  unfold isStopped
  cases state : m.state with
  | panicked fault => simp [state, RunState.fault?] at calm
  | idle | running | halted => simp

theorem isStopped_eq_false_of_calm (calm : m.state.fault? = none) (going : m.state ≠ .halted) :
    m.isStopped = false :=
  Bool.eq_false_iff.mpr fun stopped => going ((isStopped_iff_of_calm calm).mp stopped)

theorem executions_step (m : Machine) :
    executions m.step.events = [(m.pc, decode m.nextWord)] ∨
    executions m.step.events = [] ∧ m.step.machine.isStopped = true := by
  have stepped := m.stepped_step
  generalize m.step = outcome at stepped
  cases stepped with
  | stopped stopped => exact .inr ⟨rfl, stopped⟩
  | short => exact .inr ⟨rfl, rfl⟩
  | faulted => exact .inl rfl
  | completed =>
    left
    split <;> rfl

/-- Only a step that completes an instruction leaves a machine that another can be taken of. -/
theorem isStopped_step_of_not_ok (stuck : m.step.result ≠ .ok true) :
    m.step.machine.isStopped = true := by
  have stepped := m.stepped_step
  generalize m.step = outcome at stepped stuck
  cases stepped with
  | stopped stopped => exact stopped
  | short | faulted => rfl
  | completed => exact absurd rfl stuck

theorem step_start (active : m.isStopped = false) : m.start.machine.step = m.step := by
  obtain idle | running := isStopped_eq_false.mp active
  · rw [start_calm (idle ▸ rfl)]
    unfold step
    rw [idle]
  · rw [start_calm (running ▸ rfl)]
    unfold step
    rw [running]

theorem dueFault?_start (calm : m.state.fault? = none) :
    m.start.machine.dueFault? = m.dueFault? := by
  rw [start_calm calm]
  rfl

theorem isStopped_start (calm : m.state.fault? = none) : m.start.machine.isStopped = false := by
  rw [start_calm calm]
  rfl

theorem events_start (m : Machine) : m.start.events = [] := by
  obtain calm | ⟨fault, panicked⟩ := calm_or_panicked m.state
  · rw [start_calm calm]
  · rw [start_panicked panicked]

/-! ### Many steps -/

/-- The machine after `n` steps, whatever they come to. -/
def steps (m : Machine) (n : Nat) : Machine := m.performAll (List.replicate n .step)

/-- The events of `n` steps, whatever they come to. -/
def eventsOfSteps (m : Machine) (n : Nat) : List Event := m.eventsOfAll (List.replicate n .step)

/-- The number of instructions that `n` steps complete. -/
def completed : Nat → Machine → Nat
  | 0, _ => 0
  | n + 1, m =>
    match m.step.result with
    | .ok true => completed n m.step.machine + 1
    | _ => 0

theorem steps_succ (m : Machine) (n : Nat) : m.steps (n + 1) = m.step.machine.steps n := rfl

theorem eventsOfSteps_succ (m : Machine) (n : Nat) :
    m.eventsOfSteps (n + 1) = m.step.events ++ m.step.machine.eventsOfSteps n := rfl

theorem steps_add (m : Machine) (a b : Nat) : m.steps (a + b) = (m.steps a).steps b := by
  unfold steps
  rw [← List.replicate_append_replicate, performAll_append]

theorem eventsOfSteps_add (m : Machine) (a b : Nat) :
    m.eventsOfSteps (a + b) = m.eventsOfSteps a ++ (m.steps a).eventsOfSteps b := by
  unfold eventsOfSteps
  rw [← List.replicate_append_replicate, eventsOfAll_append]
  rfl

theorem steps_succ_last (m : Machine) (n : Nat) : m.steps (n + 1) = (m.steps n).step.machine :=
  m.steps_add n 1

theorem eventsOfSteps_succ_last (m : Machine) (n : Nat) :
    m.eventsOfSteps (n + 1) = m.eventsOfSteps n ++ (m.steps n).step.events := by
  rw [eventsOfSteps_add, eventsOfSteps_succ]
  exact congrArg _ (List.append_nil _)

theorem count_steps (m : Machine) (n : Nat) :
    (m.steps n).count = m.count + (executions (m.eventsOfSteps n)).length := by
  induction n generalizing m with
  | zero => rfl
  | succ n ih =>
    rw [steps_succ, eventsOfSteps_succ, executions_append, List.length_append, ih, count_step,
      Nat.add_assoc]

theorem completed_of_ok {n : Nat} (done : m.step.result = .ok true) :
    completed (n + 1) m = completed n m.step.machine + 1 := by
  rw [completed, done]

theorem completed_of_not_ok {n : Nat} (stuck : m.step.result ≠ .ok true) :
    completed (n + 1) m = 0 := by
  unfold completed
  split
  · exact absurd ‹_› stuck
  · rfl

theorem steps_stopped (stopped : m.isStopped = true) (n : Nat) :
    m.steps n = m ∧ m.eventsOfSteps n = [] ∧ completed n m = 0 := by
  induction n with
  | zero => exact ⟨rfl, rfl, rfl⟩
  | succ n ih =>
    obtain ⟨machine, events, -⟩ := ih
    rw [steps_succ, eventsOfSteps_succ, step_stopped stopped, machine, events]
    exact ⟨rfl, rfl, completed_of_not_ok (by simp [step_stopped stopped])⟩

theorem steps_of_not_ok (stuck : m.step.result ≠ .ok true) (n : Nat) :
    m.steps (n + 1) = m.step.machine ∧ m.eventsOfSteps (n + 1) = m.step.events := by
  obtain ⟨machine, events, -⟩ := steps_stopped (isStopped_step_of_not_ok stuck) n
  rw [steps_succ, eventsOfSteps_succ, machine, events, List.append_nil]
  exact ⟨rfl, rfl⟩

theorem completed_add (m : Machine) (a b : Nat) :
    completed (a + b) m = completed a m + completed b (m.steps a) := by
  induction a generalizing m with
  | zero =>
    rw [Nat.zero_add]
    exact (Nat.zero_add _).symm
  | succ a ih =>
    rw [Nat.add_right_comm]
    by_cases done : m.step.result = .ok true
    · rw [completed_of_ok done, completed_of_ok done, ih, steps_succ]
      exact Nat.add_right_comm ..
    · rw [completed_of_not_ok done, completed_of_not_ok done, (steps_of_not_ok done a).1,
        (steps_stopped (isStopped_step_of_not_ok done) b).2.2]

theorem completed_succ_last (m : Machine) (n : Nat) :
    completed (n + 1) m = completed n m + completed 1 (m.steps n) :=
  m.completed_add n 1

/-- The result of a run that has completed `count` instructions. -/
def resultOf (m : Machine) (count : Nat) : Except Fault Nat :=
  match m.state.fault? with
  | some fault => .error fault
  | none => .ok count

theorem resultOf_calm (calm : m.state.fault? = none) (count : Nat) :
    m.resultOf count = .ok count := by
  rw [resultOf, calm]

theorem resultOf_panicked {fault : Fault} (panicked : m.state.fault? = some fault) (count : Nat) :
    m.resultOf count = .error fault := by
  rw [resultOf, panicked]

/-- A run of a machine that has not panicked is as many steps as its limit says. It fails with the
fault that the machine ends in, or counts the instructions that completed. -/
theorem runFrom_eq (calm : m.state.fault? = none) (limit done : Nat) (events : Array Event) :
    runFrom limit done events m =
      ⟨(m.steps limit).resultOf (done + completed limit m), m.steps limit,
        events.toList ++ m.eventsOfSteps limit⟩ := by
  induction limit generalizing m done events with
  | zero =>
    have result : (m.steps 0).resultOf (done + completed 0 m) = .ok done := resultOf_calm calm done
    rw [result]
    exact congrArg _ (List.append_nil _).symm
  | succ limit ih =>
    have entered := fault?_step calm
    unfold runFrom
    split
    · rename_i taken
      have result : m.step.result = .ok true := by rw [taken]
      rw [steps_succ, eventsOfSteps_succ, completed_of_ok result]
      rw [taken] at entered ⊢
      rw [ih entered, Array.toList_appendList, List.append_assoc, Nat.add_right_comm,
        Nat.add_assoc done]
    · rename_i taken
      have stuck : m.step.result ≠ .ok true := by simp [taken]
      obtain ⟨machine, logged⟩ := steps_of_not_ok stuck limit
      rw [machine, logged, completed_of_not_ok stuck]
      rw [taken] at entered ⊢
      rw [resultOf_calm entered, Array.toList_appendList, Nat.add_zero]
    · rename_i taken
      have stuck : m.step.result ≠ .ok true := by simp [taken]
      obtain ⟨machine, logged⟩ := steps_of_not_ok stuck limit
      rw [machine, logged]
      rw [taken] at entered ⊢
      rw [resultOf_panicked entered, Array.toList_appendList]

theorem run_eq (calm : m.state.fault? = none) (limit : Nat) :
    m.run limit =
      ⟨(m.steps limit).resultOf (completed limit m), m.steps limit, m.eventsOfSteps limit⟩ := by
  rw [run, runFrom_eq calm, Nat.zero_add]
  rfl

theorem run_of_due {cause : Fault.Cause} (active : m.isStopped = false)
    (due : m.dueFault? = some cause) (limit : Nat) :
    (m.run (limit + 1)).result = .error ⟨m.pc, cause⟩ ∧ completed (limit + 1) m = 0 := by
  have stuck : m.step.result ≠ .ok true := by
    rw [step_result active, due]
    simp
  have panicked : (m.steps (limit + 1)).state = .panicked ⟨m.pc, cause⟩ := by
    rw [(steps_of_not_ok stuck limit).1, (panics_step active due).1]
  rw [run_eq (fault?_eq_none_of_active active),
    resultOf_panicked (congrArg RunState.fault? panicked)]
  exact ⟨rfl, completed_of_not_ok stuck⟩

theorem completed_of_run {limit k : Nat} (result : (m.run limit).result = .ok k) :
    completed limit m = k := by
  obtain calm | ⟨fault, panicked⟩ := calm_or_panicked m.state
  · rw [run_eq calm, resultOf] at result
    split at result
    · cases result
    · exact Except.ok.inj result
  · have stopped := isStopped_panicked panicked
    rw [run_stopped stopped] at result
    rw [(steps_stopped stopped limit).2.2]
    exact Except.ok.inj result

end Machine

end ChipEight
