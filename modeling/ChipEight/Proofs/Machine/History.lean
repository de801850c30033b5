import ChipEight.Machine.Execution

/-!
# Histories

What a host can ask of a machine, in any order and any number of times, and what follows for a
property that single steps and single operations preserve. `unroll` writes a history with the steps
of its runs one by one; it leads to the same machine and tells the host the same events.
-/

namespace ChipEight.Machine

/-- What a host can ask of a machine. -/
inductive Operation where
  | load (image : Array UInt8)
  | writeBytes (a : Int) (bytes : List UInt8)
  | start
  | resume
  | stop
  | reset
  | fetch
  | step
  /-- A negative limit is none at all. -/
  | run (limit : Int)

/-- The machine after an operation, whether it succeeds or not. -/
def perform (m : Machine) : Operation → Machine
  | .load image => (m.load image).machine
  | .writeBytes a bytes => m.writeBytes a bytes
  | .start | .resume => m.start.machine
  | .stop => m.stop.machine
  | .reset => m.reset.machine
  | .fetch =>
    match m.fetch with
    | .ok (_, past) => past
    | .error _ => m
  | .step => m.step.machine
  | .run limit => (m.run limit.toNat).machine

def performAll (m : Machine) (operations : List Operation) : Machine := operations.foldl perform m

theorem perform_step (m : Machine) : m.perform .step = m.step.machine := rfl

theorem perform_fetch (m : Machine) : ∃ pc count, m.perform .fetch = { m with pc, count } := by
  unfold perform fetch
  by_cases left : m.pc.toNat + 1 < 4096
  · simp only [dif_pos left]
    exact ⟨_, _, rfl⟩
  · simp only [dif_neg left]
    exact ⟨m.pc, m.count, rfl⟩

theorem start_machine (m : Machine) : ∃ state, m.start.machine = { m with state } := by
  unfold start
  split
  · exact ⟨m.state, rfl⟩
  · exact ⟨_, rfl⟩

theorem stop_machine (m : Machine) : ∃ state, m.stop.machine = { m with state } := by
  unfold stop
  split
  · exact ⟨m.state, rfl⟩
  · exact ⟨_, rfl⟩

/-- But for steps and resets, a host changes the memory, the run state and the program counter
only. -/
theorem perform_frame (m : Machine) {operation : Operation} (no_step : operation ≠ .step)
    (no_run : ∀ limit, operation ≠ .run limit) (no_reset : operation ≠ .reset) :
    ∃ memory pc count state, m.perform operation = { m with memory, pc, count, state } := by
  cases operation with
  | step => exact absurd rfl no_step
  | run limit => exact absurd rfl (no_run limit)
  | reset => exact absurd rfl no_reset
  | load image => exact ⟨m.memory.load image, m.pc, m.count, m.state, rfl⟩
  | writeBytes a bytes => exact ⟨m.memory.writeBytes a bytes, m.pc, m.count, m.state, rfl⟩
  | start | resume =>
    obtain ⟨state, same⟩ := m.start_machine
    exact ⟨m.memory, m.pc, m.count, state, same⟩
  | stop =>
    obtain ⟨state, same⟩ := m.stop_machine
    exact ⟨m.memory, m.pc, m.count, state, same⟩
  | fetch =>
    obtain ⟨pc, count, same⟩ := m.perform_fetch
    exact ⟨m.memory, pc, count, m.state, same⟩

theorem runFrom_preserves {P : Machine → Prop} (step : ∀ m, P m → P m.step.machine) (limit : Nat) :
    ∀ (done : Nat) (events : Array Event) (m : Machine), P m →
      P (runFrom limit done events m).machine := by
  induction limit with
  | zero =>
    intro done events m holds
    exact holds
  | succ limit ih =>
    intro done events m holds
    have next := step m holds
    unfold runFrom
    split
    · rename_i taken
      rw [taken] at next
      exact ih _ _ _ next
    · rename_i taken
      rw [taken] at next
      exact next
    · rename_i taken
      rw [taken] at next
      exact next

theorem run_preserves {P : Machine → Prop} (step : ∀ m, P m → P m.step.machine) {m : Machine}
    (holds : P m) (limit : Nat) : P (m.run limit).machine :=
  runFrom_preserves step limit 0 #[] m holds

/-! ### Runs as steps -/

/-- The number of steps that a run takes, the one that stops it included. -/
def stepsTaken : Nat → Machine → Nat
  | 0, _ => 0
  | limit + 1, m =>
    match m.step.result with
    | .ok true => stepsTaken limit m.step.machine + 1
    | _ => 1

/-- Operations with the steps that they take in place of their runs. -/
def unroll (m : Machine) : List Operation → List Operation
  | [] => []
  | .run limit :: operations =>
    List.replicate (stepsTaken limit.toNat m) .step ++
      (m.perform (.run limit)).unroll operations
  | operation :: operations => operation :: (m.perform operation).unroll operations

theorem performAll_cons (m : Machine) (operation : Operation) (operations : List Operation) :
    m.performAll (operation :: operations) = (m.perform operation).performAll operations := rfl

theorem performAll_append (m : Machine) (first second : List Operation) :
    m.performAll (first ++ second) = (m.performAll first).performAll second :=
  List.foldl_append

theorem runFrom_machine (limit : Nat) :
    ∀ (done : Nat) (events : Array Event) (m : Machine),
      (runFrom limit done events m).machine =
        m.performAll (List.replicate (stepsTaken limit m) .step) := by
  induction limit with
  | zero =>
    intro done events m
    rfl
  | succ limit ih =>
    intro done events m
    unfold runFrom stepsTaken
    split
    · rename_i taken
      rw [taken]
      dsimp only
      rw [ih, List.replicate_succ, performAll_cons, perform_step, taken]
    · rename_i taken
      rw [taken]
      exact (congrArg Outcome.machine taken).symm
    · rename_i taken
      rw [taken]
      exact (congrArg Outcome.machine taken).symm

theorem perform_run (m : Machine) (limit : Int) :
    m.perform (.run limit) = m.performAll (List.replicate (stepsTaken limit.toNat m) .step) :=
  runFrom_machine limit.toNat 0 #[] m

theorem performAll_unroll (m : Machine) (operations : List Operation) :
    m.performAll (m.unroll operations) = m.performAll operations := by
  induction operations generalizing m with
  | nil => rfl
  | cons operation operations ih =>
    rw [performAll_cons, ← ih]
    cases operation with
    | run limit => rw [unroll, performAll_append, ← perform_run]
    | _ => simp only [unroll, performAll_cons]

theorem ne_run_of_mem_unroll {m : Machine} {operations : List Operation} {move : Operation}
    (taken : move ∈ m.unroll operations) (limit : Int) : move ≠ .run limit := by
  induction operations generalizing m with
  | nil => cases taken
  | cons operation operations ih =>
    cases operation with
    | run limit =>
      rcases List.mem_append.mp taken with taken | taken
      · rw [(List.mem_replicate.mp taken).2]
        exact Operation.noConfusion
      · exact ih taken
    | _ =>
      rcases List.mem_cons.mp taken with rfl | taken
      · exact Operation.noConfusion
      · exact ih taken

theorem mem_of_mem_unroll {m : Machine} {operations : List Operation} {move : Operation}
    (taken : move ∈ m.unroll operations) : move = .step ∨ move ∈ operations := by
  induction operations generalizing m with
  | nil => cases taken
  | cons operation operations ih =>
    cases operation with
    | run limit =>
      rcases List.mem_append.mp taken with taken | taken
      · exact .inl (List.mem_replicate.mp taken).2
      · exact (ih taken).imp_right (List.mem_cons_of_mem _)
    | _ =>
      rcases List.mem_cons.mp taken with rfl | taken
      · exact .inr List.mem_cons_self
      · exact (ih taken).imp_right (List.mem_cons_of_mem _)

theorem reset_notMem_unroll {m : Machine} {operations : List Operation}
    (no_reset : .reset ∉ operations) : .reset ∉ m.unroll operations := by
  intro taken
  obtain step | mem := mem_of_mem_unroll taken
  · cases step
  · exact no_reset mem

def performFirst (m : Machine) (operations : List Operation) (k : Nat) : Machine :=
  m.performAll (operations.take k)

theorem performFirst_succ (m : Machine) {operations : List Operation} {k : Nat}
    (inside : k < operations.length) :
    m.performFirst operations (k + 1) = (m.performFirst operations k).perform operations[k] := by
  rw [performFirst, List.take_succ_eq_append_getElem inside, performAll_append]
  rfl

theorem performFirst_unroll (m : Machine) (operations : List Operation) :
    m.performFirst (m.unroll operations) (m.unroll operations).length =
      m.performAll operations := by
  rw [performFirst, List.take_length, performAll_unroll]

theorem performAll_preserves_of_mem {P : Machine → Prop} {operations : List Operation}
    (each : ∀ m, ∀ operation ∈ operations, P m → P (perform m operation)) {m : Machine}
    (holds : P m) : P (m.performAll operations) := by
  induction operations generalizing m with
  | nil => exact holds
  | cons operation operations ih =>
    have next := each m operation List.mem_cons_self holds
    exact ih (fun m later taken => each m later (List.mem_cons_of_mem _ taken)) next

theorem performAll_preserves {P : Machine → Prop}
    (each : ∀ m operation, P m → P (perform m operation)) {m : Machine} (holds : P m)
    (operations : List Operation) : P (m.performAll operations) :=
  performAll_preserves_of_mem (fun m operation _ => each m operation) holds

/-! ### Events -/

def eventsOf (m : Machine) : Operation → List Event
  | .load image => (m.load image).events
  | .writeBytes .. | .fetch => []
  | .start | .resume => m.start.events
  | .stop => m.stop.events
  | .reset => m.reset.events
  | .step => m.step.events
  | .run limit => (m.run limit.toNat).events

def eventsOfAll (m : Machine) : List Operation → List Event
  | [] => []
  | operation :: operations => m.eventsOf operation ++ (m.perform operation).eventsOfAll operations

theorem eventsOf_step (m : Machine) : m.eventsOf .step = m.step.events := rfl

theorem eventsOfAll_cons (m : Machine) (operation : Operation) (operations : List Operation) :
    m.eventsOfAll (operation :: operations) =
      m.eventsOf operation ++ (m.perform operation).eventsOfAll operations := rfl

theorem eventsOfAll_append (m : Machine) (first second : List Operation) :
    m.eventsOfAll (first ++ second) =
      m.eventsOfAll first ++ (m.performAll first).eventsOfAll second := by
  induction first generalizing m with
  | nil => rfl
  | cons operation first ih =>
    rw [List.cons_append, eventsOfAll_cons, eventsOfAll_cons, performAll_cons, ih,
      List.append_assoc]

theorem eventsOfAll_eq_flatMap (m : Machine) (operations : List Operation) :
    m.eventsOfAll operations = operations.zipIdx.flatMap fun (operation, k) =>
      (m.performFirst operations k).eventsOf operation := by
  induction operations generalizing m with
  | nil => rfl
  | cons operation operations ih =>
    rw [eventsOfAll_cons, ih, List.zipIdx_cons, List.flatMap_cons,
      List.zipIdx_succ, List.flatMap_map]
    rfl

theorem runFrom_events (limit : Nat) :
    ∀ (done : Nat) (events : Array Event) (m : Machine),
      (runFrom limit done events m).events =
        events.toList ++ m.eventsOfAll (List.replicate (stepsTaken limit m) .step) := by
  induction limit with
  | zero =>
    intro done events m
    exact (List.append_nil _).symm
  | succ limit ih =>
    intro done events m
    -- A run that stops here has the events of its last step and none after them.
    have last : m.eventsOfAll (List.replicate 1 .step) = m.step.events := List.append_nil _
    unfold runFrom stepsTaken
    split
    · rename_i taken
      rw [taken]
      dsimp only
      rw [ih, List.replicate_succ, eventsOfAll_cons, eventsOf_step, perform_step, taken,
        Array.toList_appendList, List.append_assoc]
    · rename_i taken
      rw [taken] at last ⊢
      rw [last, Array.toList_appendList]
    · rename_i taken
      rw [taken] at last ⊢
      rw [last, Array.toList_appendList]

theorem eventsOf_run (m : Machine) (limit : Int) :
    m.eventsOf (.run limit) = m.eventsOfAll (List.replicate (stepsTaken limit.toNat m) .step) :=
  runFrom_events limit.toNat 0 #[] m

theorem eventsOfAll_unroll (m : Machine) (operations : List Operation) :
    m.eventsOfAll (m.unroll operations) = m.eventsOfAll operations := by
  induction operations generalizing m with
  | nil => rfl
  | cons operation operations ih =>
    rw [eventsOfAll_cons, ← ih]
    cases operation with
    | run limit => rw [unroll, eventsOfAll_append, ← perform_run, ← eventsOf_run]
    | _ => simp only [unroll, eventsOfAll_cons]

end ChipEight.Machine
