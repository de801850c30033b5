import ChipEight.Proofs.Machine.Calls
import ChipEight.Proofs.Machine.InPlace

/-!
# Run states and what a host is told

How a machine goes from one run state to another, and which halts and panics a host is told of on
the way: a panic when it is entered, a halt when the end of a program or a stop brings it about
(`changesRunState_perform`, `tells_perform`). Nothing but a reset changes a panicked machine, its
memory apart.
-/

namespace ChipEight

def Event.panic? : Event → Option Fault
  | panicked fault => some fault
  | _ => none

def Event.halt? : Event → Option (UInt16 × HaltReason)
  | halted pc reason => some (pc, reason)
  | _ => none

def panicsTold (events : List Event) : List Fault := events.filterMap Event.panic?

def haltsTold (events : List Event) : List (UInt16 × HaltReason) := events.filterMap Event.halt?

theorem panicsTold_append (first second : List Event) :
    panicsTold (first ++ second) = panicsTold first ++ panicsTold second :=
  List.filterMap_append

namespace Machine

variable {m m' : Machine}

/-! ### Steps -/

theorem decode_eq_finish_iff (w : UInt16) : decode w = .finish ↔ classify w = .finish := by
  rw [← op_decode]
  cases decode w <;> simp [Instruction.op]

theorem state_of_effect (effect : m.Effect m') :
    m'.state = if classify m.nextWord = .finish then .halted else .running := by
  unfold Effect at effect
  dsimp only at effect
  -- Every clause but the first says what becomes of a running machine.
  cases op : classify m.nextWord <;> simp only [op, reduceCtorEq, if_false, if_true] at effect ⊢
  case finish => exact congrArg Machine.state effect
  all_goals exact congrArg Machine.state effect.1

theorem eq_of_effect_finish (effect : m.Effect m') (op : classify m.nextWord = .finish) :
    m' = { m.noted with state := .halted } := by
  unfold Effect at effect
  simp only [op] at effect
  exact effect

theorem pc_of_effect_finish (effect : m.Effect m') (op : classify m.nextWord = .finish) :
    m'.pc = m.pc := by
  rw [eq_of_effect_finish effect op]
  rfl

theorem completes_of_free {op : Op} (active : m.isStopped = false) (free : m.dueFault? = none)
    (same : classify m.nextWord = op) : m.Completes op := by
  refine ⟨?_, same⟩
  rw [step_result active, free]

theorem events_step (active : m.isStopped = false) (free : m.dueFault? = none) :
    m.step.events = .executing m.pc (decode m.nextWord) ::
      if classify m.nextWord = .finish then [.halted m.pc .endOfProgram] else [] := by
  have effect := step_effect active free
  rw [step_whole active (noFault_of_dueFault? free).whole, step_machine active free]
  simp only [decode_eq_finish_iff]
  by_cases op : classify m.nextWord = .finish
  · rw [if_pos op, if_pos op, pc_of_effect_finish effect op]
  · rw [if_neg op, if_neg op]

theorem panics_step {cause : Fault.Cause} (active : m.isStopped = false)
    (due : m.dueFault? = some cause) :
    m.step.machine.state = .panicked ⟨m.pc, cause⟩ ∧
    panicsTold m.step.events = [⟨m.pc, cause⟩] ∧ haltsTold m.step.events = [] := by
  by_cases short : 0xFFE < m.pc.toNat
  · have fetch := due.symm.trans (dueFault?_eq_fetchPastEnd.mpr short)
    rw [step_short active short, Option.some.inj fetch]
    exact ⟨rfl, rfl, rfl⟩
  · have whole := Nat.not_lt.mp short
    rw [step_whole active whole, (executeGuarded_error_iff whole).mpr due]
    exact ⟨rfl, rfl, rfl⟩

/-! ### Operations -/

/-- How an operation that is no run changes the run state. -/
structure ChangesRunState (m : Machine) (move : Operation) (m' : Machine) : Prop where
  idle : m'.state = .idle → m.state = .idle ∨ move = .reset
  running : m'.state = .running → m.state = .running ∨
    (m.state = .idle ∨ m.state = .halted) ∧ (move = .start ∨ move = .resume) ∨
    m.state = .idle ∧ move = .step
  starts : move = .start ∨ move = .resume → m.state.fault? = none → m'.state = .running
  halted : m'.state = .halted → m.state = .halted ∨ move = .stop ∨
    move = .step ∧ m.Completes .finish

/-- What a host is told during an operation that is no run. -/
structure Tells (m : Machine) (move : Operation) (m' : Machine) (events : List Event) : Prop where
  /-- The fault of a panic that is entered. -/
  panics : panicsTold events = if m.state.fault? = none then m'.state.fault?.toList else []
  /-- The machine is back on the word that ends the program. -/
  endOfProgram : move = .step → m.Completes .finish →
    haltsTold events = [(m.pc, .endOfProgram)] ∧ m'.pc = m.pc ∧ m'.state = .halted
  stopped : move = .stop → m.state.fault? = none →
    haltsTold events = [(m.pc, .stopped)] ∧ m'.pc = m.pc ∧ m'.state = .halted
  noHalt : ¬(move = .step ∧ m.Completes .finish) → ¬(move = .stop ∧ m.state.fault? = none) →
    haltsTold events = []

theorem noNewPanic {before after : Option Fault} (calm : before = none → after = none) :
    (if before = none then after.toList else []) = [] := by
  split
  · rename_i none
    rw [calm none]
    rfl
  · rfl

theorem fault?_eq_none_of_active (active : m.isStopped = false) : m.state.fault? = none := by
  obtain idle | running := isStopped_eq_false.mp active
  · rw [idle]
    rfl
  · rw [running]
    rfl

theorem not_completes_of_stopped (stopped : m.isStopped = true) (op : Op) : ¬m.Completes op := by
  intro completes
  rw [(free_of_step_ok completes.1).1] at stopped
  cases stopped

theorem not_completes_of_due {cause : Fault.Cause} (due : m.dueFault? = some cause) (op : Op) :
    ¬m.Completes op := by
  intro completes
  rw [(free_of_step_ok completes.1).2] at due
  cases due

theorem changesRunState_step (m : Machine) : m.ChangesRunState .step m.step.machine := by
  have no_start : ¬(Operation.step = .start ∨ Operation.step = .resume) := by simp
  cases stopped : m.isStopped with
  | true =>
    rw [step_stopped stopped]
    exact ⟨.inl, .inl, fun start => absurd start no_start, .inl⟩
  | false =>
    have active := isStopped_eq_false.mp stopped
    cases due : m.dueFault? with
    | some cause =>
      obtain ⟨panicked, -, -⟩ := panics_step stopped due
      constructor <;> simp [panicked]
    | none =>
      have state := state_of_effect (step_effect stopped due)
      by_cases op : classify m.nextWord = .finish
      · rw [if_pos op] at state
        have completes := completes_of_free stopped due op
        constructor <;> simp [state, completes]
      · rw [if_neg op] at state
        refine ⟨?_, fun _ => ?_, fun start => absurd start no_start, ?_⟩
        · simp [state]
        · obtain idle | running := active
          · exact .inr (.inr ⟨idle, rfl⟩)
          · exact .inl running
        · simp [state]

theorem tells_step (m : Machine) : m.Tells .step m.step.machine m.step.events := by
  have no_stop : Operation.step ≠ .stop := Operation.noConfusion
  cases stopped : m.isStopped with
  | true =>
    have none_completes := not_completes_of_stopped stopped .finish
    rw [step_stopped stopped]
    exact ⟨(noNewPanic id).symm, fun _ completes => absurd completes none_completes,
      fun stop => absurd stop no_stop, fun _ _ => rfl⟩
  | false =>
    have calm := fault?_eq_none_of_active stopped
    cases due : m.dueFault? with
    | some cause =>
      obtain ⟨panicked, panics, halts⟩ := panics_step stopped due
      refine ⟨?_, fun _ completes => absurd completes (not_completes_of_due due .finish),
        fun stop => absurd stop no_stop, fun _ _ => halts⟩
      rw [if_pos calm, panicked, panics]
      rfl
    | none =>
      have effect := step_effect stopped due
      have state := state_of_effect effect
      have events := events_step stopped due
      by_cases op : classify m.nextWord = .finish
      · rw [if_pos op] at state events
        have completes := completes_of_free stopped due op
        refine ⟨?_, fun _ _ => ⟨?_, pc_of_effect_finish effect op, state⟩,
          fun stop => absurd stop no_stop, fun other => absurd ⟨rfl, completes⟩ other⟩
        · rw [if_pos calm, state, events]
          rfl
        · rw [events]
          rfl
      · rw [if_neg op] at state events
        refine ⟨?_, fun _ completes => absurd completes.2 op, fun stop => absurd stop no_stop, ?_⟩
        · rw [if_pos calm, state, events]
          rfl
        · intro _ _
          rw [events]
          rfl

theorem start_panicked {fault : Fault} (panicked : m.state = .panicked fault) :
    m.start = ⟨.ok false, m, []⟩ := by
  unfold start
  rw [panicked]

theorem stop_panicked {fault : Fault} (panicked : m.state = .panicked fault) :
    m.stop = ⟨.ok (), m, []⟩ := by
  unfold stop
  rw [panicked]

theorem start_calm (calm : m.state.fault? = none) :
    m.start = ⟨.ok true, { m with state := .running }, []⟩ := by
  unfold start
  cases state : m.state with
  | panicked fault => simp [state, RunState.fault?] at calm
  | idle | running | halted => rfl

theorem stop_calm (calm : m.state.fault? = none) :
    m.stop = ⟨.ok (), { m with state := .halted }, [.halted m.pc .stopped]⟩ := by
  unfold stop
  cases state : m.state with
  | panicked fault => simp [state, RunState.fault?] at calm
  | idle | running | halted => rfl

theorem state_fetch (m : Machine) : (m.perform .fetch).state = m.state := by
  obtain ⟨pc, count, same⟩ := m.perform_fetch
  rw [same]

theorem state_memory (m : Machine) (memory : Memory) : { m with memory }.state = m.state := rfl

theorem calm_or_panicked (state : RunState) :
    state.fault? = none ∨ ∃ fault, state = .panicked fault := by
  cases state with
  | panicked fault => exact .inr ⟨fault, rfl⟩
  | idle | running | halted => exact .inl rfl

theorem changesRunState_of_same {move : Operation} (same : m'.state = m.state)
    (quiet : move ≠ .start ∧ move ≠ .resume) : m.ChangesRunState move m' where
  idle becomes := .inl (same ▸ becomes)
  running becomes := .inl (same ▸ becomes)
  starts start := absurd start (not_or.mpr quiet)
  halted becomes := .inl (same ▸ becomes)

theorem changesRunState_start {move : Operation} (start : move = .start ∨ move = .resume) :
    m.ChangesRunState move m.start.machine := by
  obtain calm | ⟨fault, panicked⟩ := calm_or_panicked m.state
  · rw [start_calm calm]
    refine ⟨RunState.noConfusion, fun _ => ?_, fun _ _ => rfl, RunState.noConfusion⟩
    cases state : m.state with
    | idle => exact .inr (.inl ⟨.inl rfl, start⟩)
    | running => exact .inl rfl
    | halted => exact .inr (.inl ⟨.inr rfl, start⟩)
    | panicked fault => simp [state, RunState.fault?] at calm
  · rw [start_panicked panicked]
    refine ⟨.inl, .inl, fun _ calm => ?_, .inl⟩
    rw [panicked] at calm
    cases calm

theorem changesRunState_perform (m : Machine) {move : Operation}
    (single : ∀ limit, move ≠ .run limit) : m.ChangesRunState move (m.perform move) := by
  cases move with
  | step => exact changesRunState_step m
  | run limit => exact absurd rfl (single limit)
  | start => exact changesRunState_start (.inl rfl)
  | resume => exact changesRunState_start (.inr rfl)
  | stop =>
    show m.ChangesRunState .stop m.stop.machine
    obtain calm | ⟨fault, panicked⟩ := calm_or_panicked m.state
    · rw [stop_calm calm]
      exact ⟨RunState.noConfusion, RunState.noConfusion, by simp, fun _ => .inr (.inl rfl)⟩
    · rw [stop_panicked panicked]
      exact changesRunState_of_same rfl (by simp)
  | reset =>
    have idle : (m.perform .reset).state = .idle := rfl
    constructor <;> simp [idle]
  | fetch => exact changesRunState_of_same (state_fetch m) (by simp)
  | load image =>
    exact changesRunState_of_same (state_memory m (m.memory.load image)) (by simp)
  | writeBytes a bytes =>
    exact changesRunState_of_same (state_memory m (m.memory.writeBytes a bytes)) (by simp)

theorem tells_of_quiet {move : Operation} {events : List Event}
    (quiet : move ≠ .step ∧ (move = .stop → m.state.fault? ≠ none))
    (untold : panicsTold events = [] ∧ haltsTold events = [])
    (calm : m.state.fault? = none → m'.state.fault? = none) : m.Tells move m' events where
  panics := untold.1.trans (noNewPanic calm).symm
  endOfProgram step := absurd step quiet.1
  stopped stop before := absurd before (quiet.2 stop)
  noHalt _ _ := untold.2

theorem tells_start {move : Operation} (start : move = .start ∨ move = .resume) :
    m.Tells move m.start.machine m.start.events := by
  have quiet : move ≠ .step ∧ (move = .stop → m.state.fault? ≠ none) := by
    obtain rfl | rfl := start <;> simp
  obtain calm | ⟨fault, panicked⟩ := calm_or_panicked m.state
  · rw [start_calm calm]
    exact tells_of_quiet quiet ⟨rfl, rfl⟩ fun _ => rfl
  · rw [start_panicked panicked]
    exact tells_of_quiet quiet ⟨rfl, rfl⟩ id

theorem tells_stop (m : Machine) : m.Tells .stop m.stop.machine m.stop.events := by
  obtain calm | ⟨fault, panicked⟩ := calm_or_panicked m.state
  · rw [stop_calm calm]
    refine ⟨?_, fun step _ => Operation.noConfusion step, fun _ _ => ⟨rfl, rfl, rfl⟩,
      fun _ other => absurd ⟨rfl, calm⟩ other⟩
    rw [if_pos calm]
    rfl
  · rw [stop_panicked panicked]
    refine tells_of_quiet ⟨Operation.noConfusion, fun _ calm => ?_⟩ ⟨rfl, rfl⟩ id
    rw [panicked] at calm
    cases calm

theorem tells_perform (m : Machine) {move : Operation} (single : ∀ limit, move ≠ .run limit) :
    m.Tells move (m.perform move) (m.eventsOf move) := by
  cases move with
  | step => exact tells_step m
  | run limit => exact absurd rfl (single limit)
  | start => exact tells_start (.inl rfl)
  | resume => exact tells_start (.inr rfl)
  | stop => exact tells_stop m
  | reset => exact tells_of_quiet (by simp) ⟨rfl, rfl⟩ fun _ => rfl
  | fetch => exact tells_of_quiet (by simp) ⟨rfl, rfl⟩ fun calm => state_fetch m ▸ calm
  | load image =>
    have same := state_memory m (m.memory.load image)
    exact tells_of_quiet (by simp) ⟨rfl, rfl⟩ fun calm => (congrArg _ same).trans calm
  | writeBytes a bytes =>
    have same := state_memory m (m.memory.writeBytes a bytes)
    exact tells_of_quiet (by simp) ⟨rfl, rfl⟩ fun calm => (congrArg _ same).trans calm

/-! ### Panicked machines -/

theorem isStopped_panicked {fault : Fault} (panicked : m.state = .panicked fault) :
    m.isStopped = true := by
  rw [isStopped, panicked]

theorem run_stopped (stopped : m.isStopped = true) (limit : Nat) :
    m.run limit = ⟨.ok 0, m, []⟩ := by
  cases limit with
  | zero => rfl
  | succ limit =>
    rw [run, runFrom, step_stopped stopped]
    rfl

theorem frame_of_still {α : Type} {outcome : Outcome α} {result : Except Fault α}
    (still : outcome = ⟨result, m, []⟩) :
    (∃ memory, outcome.machine = { m with memory }) ∧ haltsTold outcome.events = [] := by
  rw [still]
  exact ⟨⟨m.memory, rfl⟩, rfl⟩

/-- Without a reset or a fetch of its own, a host changes nothing about a panicked machine but its
memory. -/
theorem perform_panicked {fault : Fault} (panicked : m.state = .panicked fault)
    {operation : Operation} (no_reset : operation ≠ .reset) (no_fetch : operation ≠ .fetch) :
    (∃ memory, m.perform operation = { m with memory }) ∧
      haltsTold (m.eventsOf operation) = [] := by
  have stopped := isStopped_panicked panicked
  cases operation with
  | reset => exact absurd rfl no_reset
  | fetch => exact absurd rfl no_fetch
  | load image => exact ⟨⟨_, rfl⟩, rfl⟩
  | writeBytes a bytes => exact ⟨⟨_, rfl⟩, rfl⟩
  | start | resume => exact frame_of_still (start_panicked panicked)
  | stop => exact frame_of_still (stop_panicked panicked)
  | step => exact frame_of_still (step_stopped stopped)
  | run limit => exact frame_of_still (run_stopped stopped limit.toNat)

theorem state_perform_panicked {fault : Fault} (panicked : m.state = .panicked fault)
    {operation : Operation} (no_reset : operation ≠ .reset) :
    (m.perform operation).state = .panicked fault := by
  by_cases fetch : operation = .fetch
  · rw [fetch, state_fetch, panicked]
  · obtain ⟨⟨memory, same⟩, -⟩ := perform_panicked panicked no_reset fetch
    rw [same, ← panicked]

/-! ### Histories -/

variable {operations : List Operation}

theorem state_performAll_panicked {fault : Fault} (panicked : m.state = .panicked fault)
    (no_reset : .reset ∉ operations) : (m.performAll operations).state = .panicked fault := by
  induction operations generalizing m with
  | nil => exact panicked
  | cons operation operations ih =>
    rw [List.mem_cons, not_or] at no_reset
    exact ih (state_perform_panicked panicked (Ne.symm no_reset.1)) no_reset.2

theorem performAll_panicked {fault : Fault} (panicked : m.state = .panicked fault)
    (no_reset : .reset ∉ operations) (no_fetch : .fetch ∉ operations) :
    (∃ memory, m.performAll operations = { m with memory }) ∧
      haltsTold (m.eventsOfAll operations) = [] := by
  induction operations generalizing m with
  | nil => exact ⟨⟨m.memory, rfl⟩, rfl⟩
  | cons operation operations ih =>
    rw [List.mem_cons, not_or] at no_reset no_fetch
    obtain ⟨⟨memory, same⟩, silent⟩ :=
      perform_panicked panicked (Ne.symm no_reset.1) (Ne.symm no_fetch.1)
    have next := ih (m := { m with memory }) panicked no_reset.2 no_fetch.2
    obtain ⟨⟨memory', same'⟩, silent'⟩ := next
    rw [performAll_cons, eventsOfAll_cons, haltsTold, List.filterMap_append, same]
    refine ⟨⟨memory', same'⟩, ?_⟩
    rw [← haltsTold, silent, List.nil_append]
    exact silent'

/-- Without a reset a host is told of one panic at most, the one that the machine ends in. -/
theorem panicsTold_eventsOfAll (single : ∀ move ∈ operations, ∀ limit, move ≠ .run limit)
    (no_reset : .reset ∉ operations) : panicsTold (m.eventsOfAll operations) =
      if m.state.fault? = none then (m.performAll operations).state.fault?.toList else [] := by
  induction operations generalizing m with
  | nil => exact (noNewPanic id).symm
  | cons move moves ih =>
    rw [List.mem_cons, not_or] at no_reset
    rw [List.forall_mem_cons] at single
    rw [eventsOfAll_cons, panicsTold_append, (tells_perform m single.1).panics,
      ih single.2 no_reset.2, performAll_cons]
    obtain calm | ⟨fault, panicked⟩ := calm_or_panicked m.state
    · rw [if_pos calm, if_pos calm]
      obtain calm' | ⟨fault, panicked⟩ := calm_or_panicked (m.perform move).state
      · rw [if_pos calm', calm']
        rfl
      · rw [state_performAll_panicked panicked no_reset.2, panicked]
        rfl
    · rw [state_perform_panicked panicked (Ne.symm no_reset.1), panicked]
      rfl

/-- Through any history, its runs taken step by step, the run state changes and a host is told of
halts and panics as each operation says. Without a reset there is at most one panic, and after it
nothing can be done but to change the memory. -/
theorem run_states_over_history (m : Machine) (operations : List Operation) :
    let moves := m.unroll operations
    let after := m.performFirst moves
    after moves.length = m.performAll operations ∧
    m.eventsOfAll operations =
      (moves.zipIdx.flatMap fun (move, k) => (after k).eventsOf move) ∧
    (∀ k move, moves[k]? = some move →
      (after k).ChangesRunState move (after (k + 1)) ∧
      (after k).Tells move (after (k + 1)) ((after k).eventsOf move)) ∧
    (.reset ∉ operations → panicsTold (m.eventsOfAll operations) =
      if m.state.fault? = none then (m.performAll operations).state.fault?.toList else []) ∧
    ∀ fault, m.state = .panicked fault →
      m.start = ⟨.ok false, m, []⟩ ∧ m.stop = ⟨.ok (), m, []⟩ ∧ m.step = ⟨.ok false, m, []⟩ ∧
      (∀ limit, m.run limit = ⟨.ok 0, m, []⟩) ∧
      (.reset ∉ operations → .fetch ∉ operations →
        (∃ memory, m.performAll operations = { m with memory }) ∧
        haltsTold (m.eventsOfAll operations) = []) := by
  intro moves after
  have single : ∀ move ∈ moves, ∀ limit, move ≠ .run limit := fun _ => ne_run_of_mem_unroll
  refine ⟨m.performFirst_unroll operations, ?_, ?_, ?_, ?_⟩
  · rw [← eventsOfAll_unroll, eventsOfAll_eq_flatMap]
  · intro k move taken
    obtain ⟨inside, rfl⟩ := List.getElem?_eq_some_iff.mp taken
    have next : after (k + 1) = (after k).perform moves[k] := performFirst_succ m inside
    have lone := single _ (List.getElem_mem inside)
    rw [next]
    exact ⟨changesRunState_perform _ lone, tells_perform _ lone⟩
  · intro no_reset
    rw [← eventsOfAll_unroll, panicsTold_eventsOfAll single (reset_notMem_unroll no_reset),
      performAll_unroll]
  · intro fault panicked
    have stopped := isStopped_panicked panicked
    exact ⟨start_panicked panicked, stop_panicked panicked, step_stopped stopped,
      run_stopped stopped, performAll_panicked panicked⟩

/-- A machine that is to return without a call. -/
def lostReturn : Machine := (powerOn 0 false).perform (.load #[0x00, 0xEE])

theorem due_lostReturn : lostReturn.dueFault? = some .stackUnderflow := by
  have word : lostReturn.nextWord = 0x00EE := nextWord_load #[0x00, 0xEE] rfl (by decide) (by decide)
  unfold dueFault?
  rw [word]
  decide

theorem state_lostReturn :
    (lostReturn.performAll [.step]).state = .panicked ⟨0x200, .stackUnderflow⟩ := by
  rw [performAll, List.foldl_cons, List.foldl_nil, perform_step]
  exact (panics_step rfl due_lostReturn).1

theorem run_states_over_history_of_lost_return :
    panicsTold (lostReturn.eventsOfAll [.step, .start, .stop]) = [⟨0x200, .stackUnderflow⟩] ∧
    (lostReturn.performAll [.step]).start.result = .ok false ∧
    ∃ memory, (lostReturn.performAll [.step]).performAll [.load #[0xFF], .resume, .run 7, .stop] =
      { lostReturn.performAll [.step] with memory } := by
  obtain ⟨-, -, -, panics, -⟩ := run_states_over_history lostReturn [.step, .start, .stop]
  obtain ⟨-, -, -, -, after⟩ := run_states_over_history (lostReturn.performAll [.step])
    [.load #[0xFF], .resume, .run 7, .stop]
  obtain ⟨start, -, -, -, frame⟩ := after _ state_lostReturn
  refine ⟨?_, congrArg Outcome.result start, (frame (by simp) (by simp)).1⟩
  have calm : lostReturn.state.fault? = none := rfl
  have cut := performAll_append lostReturn [.step] [.start, .stop]
  rw [List.singleton_append] at cut
  rw [panics (by simp), if_pos calm, cut,
    state_performAll_panicked state_lostReturn (by simp)]
  rfl

end Machine

end ChipEight
