import ChipEight.Monitor.Reaction
import ChipEight.Proofs.Machine.Stepping

/-!
# Three ways to drive a machine

`step`, `run` without breakpoints and a run of the machine itself take the same steps
(`drivers_agree`). What the loops of the first two do is said by `stepLoop_eq` and `runs_runLoop`.
-/

namespace ChipEight

open Text

def Entry.event? : Entry → Option Event
  | .event e => some e
  | .text _ => none

def Entry.text? : Entry → Option String
  | .text s => some s
  | .event _ => none

def eventsIn (entries : List Entry) : List Event := entries.filterMap Entry.event?

def textsIn (entries : List Entry) : List String := entries.filterMap Entry.text?

theorem eventsIn_ofEvents (events : List Event) : eventsIn (Entry.ofEvents events) = events := by
  rw [eventsIn, Entry.ofEvents, List.filterMap_map]
  exact List.filterMap_some

theorem textsIn_ofEvents (events : List Event) : textsIn (Entry.ofEvents events) = [] := by
  rw [textsIn, Entry.ofEvents, List.filterMap_map]
  exact List.filterMap_eq_nil_iff.mpr fun _ _ => rfl

theorem eventsIn_append (first second : List Entry) :
    eventsIn (first ++ second) = eventsIn first ++ eventsIn second := List.filterMap_append

theorem textsIn_append (first second : List Entry) :
    textsIn (first ++ second) = textsIn first ++ textsIn second := List.filterMap_append

theorem eventsIn_ofEvents_line (events : List Event) (s : String) :
    eventsIn (Entry.ofEvents events ++ [.line s]) = events := by
  rw [eventsIn_append, eventsIn_ofEvents]
  exact List.append_nil _

theorem textsIn_ofEvents_line (events : List Event) (s : String) :
    textsIn (Entry.ofEvents events ++ [.line s]) = [s ++ "\n"] := by
  rw [textsIn_append, textsIn_ofEvents]
  rfl

theorem eventsIn_push_line (out : Array Entry) (s : String) :
    eventsIn (out.push (.line s)).toList = eventsIn out.toList := by
  rw [Array.toList_push, eventsIn_append]
  exact List.append_nil _

theorem textsIn_push_line (out : Array Entry) (s : String) :
    textsIn (out.push (.line s)).toList = textsIn out.toList ++ [s ++ "\n"] := by
  rw [Array.toList_push, textsIn_append]
  rfl

theorem eventsIn_appendEvents (out : Array Entry) (events : List Event) :
    eventsIn (out ++ Entry.ofEvents events).toList = eventsIn out.toList ++ events := by
  rw [Array.toList_appendList, eventsIn_append, eventsIn_ofEvents]

theorem textsIn_appendEvents (out : Array Entry) (events : List Event) :
    textsIn (out ++ Entry.ofEvents events).toList = textsIn out.toList := by
  rw [Array.toList_appendList, textsIn_append, textsIn_ofEvents, List.append_nil]

namespace Monitor.Session

variable {m : Machine}

/-! ### Runs -/

/-- What a loop of at most `limit` steps comes to that is entered after `done` steps with some
events. It may stop for a breakpoint; otherwise it ends where `limit` steps end. -/
inductive Runs (breakpoints : List Int) (m : Machine) (limit done : Nat) (events : List Event) :
    RunResult → Prop where
  | breakpoint {k : Nat} {log : Array Event} (within : k ≤ limit)
      (active : (m.steps k).isStopped = false)
      (hit : ((m.steps k).pc.toNat : Int) ∈ breakpoints) (all : Machine.completed k m = k)
      (logged : log.toList = events ++ m.eventsOfSteps k) :
      Runs breakpoints m limit done events ⟨m.steps k, log, done + k, .breakpoint⟩
  | fault {fault : Fault} {log : Array Event} {count : Nat}
      (panicked : (m.steps limit).state = .panicked fault)
      (logged : log.toList = events ++ m.eventsOfSteps limit) :
      Runs breakpoints m limit done events ⟨m.steps limit, log, count, .fault fault⟩
  | ended {log : Array Event} (calm : (m.steps limit).state.fault? = none)
      (logged : log.toList = events ++ m.eventsOfSteps limit) :
      Runs breakpoints m limit done events
        ⟨m.steps limit, log, done + Machine.completed limit m, .over⟩

theorem runs_succ {breakpoints : List Int} {limit done : Nat} {events : List Event}
    {r : RunResult} (result : m.step.result = .ok true)
    (runs : Runs breakpoints m.step.machine limit (done + 1) (events ++ m.step.events) r) :
    Runs breakpoints m (limit + 1) done events r := by
  have counted : ∀ n, done + 1 + n = done + (n + 1) := by
    intro n
    omega
  cases runs with
  | breakpoint within active hit all logged =>
    rw [counted]
    refine .breakpoint (Nat.succ_le_succ within) active hit ?_ (logged.trans (List.append_assoc ..))
    rw [Machine.completed_of_ok result, all]
  | fault panicked logged => exact .fault panicked (logged.trans (List.append_assoc ..))
  | ended calm logged =>
    rw [counted, ← Machine.completed_of_ok result]
    exact .ended calm (logged.trans (List.append_assoc ..))

theorem runs_stopped {breakpoints : List Int} {done : Nat} {log : Array Event}
    (stopped : m.isStopped = true) (calm : m.state.fault? = none) (limit : Nat) :
    Runs breakpoints m limit done log.toList ⟨m, log, done, .over⟩ := by
  obtain ⟨machine, logged, none_more⟩ := Machine.steps_stopped stopped limit
  have ended : Runs breakpoints m limit done log.toList
      ⟨m.steps limit, log, done + Machine.completed limit m, .over⟩ := by
    apply Runs.ended
    · rw [machine, calm]
    · rw [logged, List.append_nil]
  rw [machine, none_more] at ended
  exact ended

theorem runs_runLoop (breakpoints : List Int) (active : m.isStopped = false)
    (limit done : Nat) (events : Array Event) :
    Runs breakpoints m limit done events.toList (runLoop breakpoints limit done m events) := by
  induction limit generalizing m done events with
  | zero => exact .ended (Machine.fault?_eq_none_of_active active) (List.append_nil _).symm
  | succ limit ih =>
    unfold runLoop
    split
    · rename_i met
      exact .breakpoint (k := 0) (Nat.zero_le _) active met.2 rfl (List.append_nil _).symm
    have log : (events ++ m.step.events).toList = events.toList ++ m.step.events :=
      Array.toList_appendList
    dsimp only
    obtain ⟨fault, result, panicked⟩ | ⟨result, calm⟩ := Machine.step_of_active active
    · have stuck : m.step.result ≠ .ok true := by simp [result]
      obtain ⟨machine, logged⟩ := Machine.steps_of_not_ok stuck limit
      rw [result]
      rw [← machine] at panicked ⊢
      exact .fault panicked (log.trans (congrArg _ logged.symm))
    · rw [result]
      apply runs_succ result
      rw [← log]
      dsimp only
      cases stopped : m.step.machine.isStopped with
      | false => exact ih stopped _ _
      | true => exact runs_stopped stopped calm limit

/-- What is said of a run that no breakpoint has stopped. -/
def conclusion (result : Except Fault Nat) (m : Machine) : String :=
  match result with
  | .error fault => faultText fault
  | .ok count =>
    if m.isStopped then s!"{haltText m} after {count} instructions."
    else s!"\nStopped after {count} steps."

theorem eventsIn_conclude (r : RunResult) :
    eventsIn r.conclude.2 = r.events.toList ++
      match r.ending with
      | .breakpoint => r.machine.stop.events
      | .fault _ | .over => [] := by
  unfold RunResult.conclude
  obtain ⟨m, log, count, _ | fault | _⟩ := r
  · dsimp only
    rw [eventsIn_append, eventsIn_append, eventsIn_ofEvents, eventsIn_ofEvents]
    exact List.append_nil _
  · exact (eventsIn_ofEvents_line _ _).trans (List.append_nil _).symm
  · exact (eventsIn_ofEvents_line _ _).trans (List.append_nil _).symm

theorem conclude_runLoop (active : m.isStopped = false) (limit : Nat) :
    (runLoop [] limit 0 m #[]).conclude.1 = (m.run limit).machine ∧
    eventsIn (runLoop [] limit 0 m #[]).conclude.2 = (m.run limit).events ∧
    textsIn (runLoop [] limit 0 m #[]).conclude.2 =
      [conclusion (m.run limit).result (m.run limit).machine ++ "\n"] := by
  have runs := runs_runLoop [] active limit 0 #[]
  have run := Machine.run_eq (Machine.fault?_eq_none_of_active active) limit
  generalize runLoop [] limit 0 m #[] = r at runs
  cases runs with
  | breakpoint _ _ hit => cases hit
  | fault panicked logged =>
    rw [Machine.resultOf_panicked (congrArg RunState.fault? panicked)] at run
    rw [run]
    rw [eventsIn_conclude, logged]
    exact ⟨rfl, List.append_nil _, textsIn_ofEvents_line _ _⟩
  | ended calm logged =>
    rw [Machine.resultOf_calm calm] at run
    rw [run, Nat.zero_add]
    rw [eventsIn_conclude, logged]
    exact ⟨rfl, List.append_nil _, textsIn_ofEvents_line _ _⟩

/-! ### Steps -/

/-- A line for each instruction that `count` steps complete. -/
def instructionLines (count : Nat) (m : Machine) : List String :=
  (List.range (Machine.completed count m)).map fun k => instructionLine (m.steps k)

theorem instructionLines_of_ok {count : Nat} (result : m.step.result = .ok true) :
    instructionLines (count + 1) m =
      instructionLine m :: instructionLines count m.step.machine := by
  rw [instructionLines, Machine.completed_of_ok result, List.range_succ_eq_map, List.map_cons,
    List.map_map]
  rfl

/-- What is said at last of a machine that is driven until it stops. -/
def closing (m : Machine) : List String :=
  match m.state.fault? with
  | some fault => [faultText fault]
  | none => if m.isStopped then [haltText m] else []

theorem closing_of_active (active : m.isStopped = false) : closing m = [] := by
  rw [closing, Machine.fault?_eq_none_of_active active, active]
  rfl

theorem closing_of_stopped (stopped : m.isStopped = true) (calm : m.state.fault? = none) :
    closing m = [haltText m] := by
  rw [closing, calm, stopped]
  rfl

theorem stepLoop_eq (active : m.isStopped = false) (count : Nat) (out : Array Entry) :
    (stepLoop count m out).1 = m.steps count ∧
    eventsIn (stepLoop count m out).2.toList = eventsIn out.toList ++ m.eventsOfSteps count ∧
    textsIn (stepLoop count m out).2.toList = textsIn out.toList ++
      (instructionLines count m ++ closing (m.steps count)).map (· ++ "\n") := by
  induction count generalizing m out with
  | zero =>
    have silent : closing (m.steps 0) = [] := closing_of_active active
    rw [silent]
    exact ⟨rfl, (List.append_nil _).symm, (List.append_nil _).symm⟩
  | succ count ih =>
    unfold stepLoop
    dsimp only
    obtain ⟨fault, result, panicked⟩ | ⟨result, calm⟩ := Machine.step_of_active active
    · have stuck : m.step.result ≠ .ok true := by simp [result]
      obtain ⟨machine, logged⟩ := Machine.steps_of_not_ok stuck count
      have close : closing m.step.machine = [faultText fault] := by
        rw [closing, panicked]
        rfl
      have no_line : instructionLines (count + 1) m = [] := by
        rw [instructionLines, Machine.completed_of_not_ok stuck]
        rfl
      rw [result, machine, logged, no_line, close]
      dsimp only
      rw [eventsIn_push_line, eventsIn_appendEvents, textsIn_push_line, textsIn_appendEvents]
      exact ⟨rfl, rfl, rfl⟩
    · rw [result, instructionLines_of_ok result, Machine.steps_succ, Machine.eventsOfSteps_succ]
      dsimp only
      cases stopped : m.step.machine.isStopped with
      | false =>
        obtain ⟨machine, logged, said⟩ := ih stopped
          ((out ++ Entry.ofEvents m.step.events).push (.line (instructionLine m)))
        rw [eventsIn_push_line, eventsIn_appendEvents] at logged
        rw [textsIn_push_line, textsIn_appendEvents] at said
        refine ⟨machine, logged.trans (List.append_assoc ..), said.trans (List.append_assoc ..)⟩
      | true =>
        obtain ⟨machine, logged, none_more⟩ := Machine.steps_stopped stopped count
        have no_line : instructionLines count m.step.machine = [] := by
          rw [instructionLines, none_more]
          rfl
        rw [machine, logged, no_line, closing_of_stopped stopped calm, if_pos rfl,
          eventsIn_push_line, eventsIn_push_line, eventsIn_appendEvents, textsIn_push_line,
          textsIn_push_line, textsIn_appendEvents, List.append_nil, List.append_assoc]
        exact ⟨rfl, rfl, rfl⟩

/-- An instruction that completes has a line with the bytes that were fetched for it. -/
theorem line_of_step_ok (done : m.step.result = .ok true) : ∃ b₀ b₁ past,
    m.fetch = .ok ((b₀, b₁), past) ∧
    instructionLine m = "  " ++
      s!"{addressHex m.pc.toNat}: {byteHex b₀} {byteHex b₁}  {(decodeBytes b₀ b₁).text}" ∧
    m.step.machine.last = some (decodeBytes b₀ b₁) := by
  obtain ⟨active, free⟩ := Machine.free_of_step_ok done
  have whole := (Machine.noFault_of_dueFault? free).whole
  have left : m.pc.toNat + 1 < 4096 := by omega
  obtain ⟨-, -, last⟩ := Machine.kept_of_effect (Machine.step_effect active free)
  have fetch : m.fetch = .ok ((m.memory[m.pc.toNat], m.memory[m.pc.toNat + 1]),
      { m with pc := m.pc + 2, count := m.count + 1 }) := by rw [Machine.fetch, dif_pos left]
  have first := m.memory.read_of_lt (a := m.pc.toNat) (by omega)
  have second := m.memory.read_of_lt left
  rw [Int.natCast_add] at second
  refine ⟨_, _, _, fetch, ?_, ?_⟩
  · rw [instructionLine, first]
    show (Disassembly.Row.mk _ _ (m.memory.read (m.pc.toNat + (1 : Nat)))).line = _
    rw [second]
    rfl
  · rw [last, Machine.nextWord_eq (by omega) left]
    rfl

theorem step_ok_of_lt_completed {n k : Nat} (inside : k < Machine.completed n m) :
    (m.steps k).step.result = .ok true := by
  induction n generalizing m k with
  | zero => cases inside
  | succ n ih =>
    by_cases done : m.step.result = .ok true
    · cases k with
      | zero => exact done
      | succ k =>
        rw [Machine.completed_of_ok done] at inside
        exact ih (m := m.step.machine) (Nat.lt_of_succ_lt_succ inside)
    · rw [Machine.completed_of_not_ok done] at inside
      cases inside

/-! ### Sessions -/

theorem react_command [Heap] {s s' : Session} {files : Directory} {line argument : List Char}
    {verb : Verb} {said : List Entry} (typed : Line.parse line = .command verb argument)
    (performed : s.perform files verb argument = .ok (s', said)) :
    s.react files line = ⟨s', said, .ok (endsMonitor (.command verb argument))⟩ := by
  rw [react, typed, performLine, performed]

theorem stepLoop_wake (m : Machine) {count : Nat} (some_steps : 0 < count) (out : Array Entry) :
    stepLoop count (wake m) out = stepLoop count m.start.machine out := by
  have idle_or_running : m.isStopped = false →
      stepLoop count m out = stepLoop count m.start.machine out := by
    intro active
    have line : instructionLine m.start.machine = instructionLine m := by
      rw [Machine.start_calm (Machine.fault?_eq_none_of_active active)]
      rfl
    obtain ⟨count, rfl⟩ := Nat.exists_eq_add_one.mpr some_steps
    rw [stepLoop, stepLoop, Machine.step_start active, line]
  unfold wake
  cases state : m.state with
  | halted => rfl
  | panicked fault => rw [Machine.start_panicked state]
  | idle => exact idle_or_running (Machine.isStopped_eq_false.mpr (.inl state))
  | running => exact idle_or_running (Machine.isStopped_eq_false.mpr (.inr state))

theorem stepLoop_stopped (stopped : m.isStopped = true) {count : Nat} (some_steps : 0 < count) :
    stepLoop count m #[] = (m, #[.line (haltText m)]) := by
  obtain ⟨count, rfl⟩ := Nat.exists_eq_add_one.mpr some_steps
  rw [stepLoop, Machine.step_stopped stopped]
  rfl

/-- What `step` says after the lines of the instructions. -/
def remark (result : Except Fault Nat) (m : Machine) : List String :=
  match result with
  | .error fault => [faultText fault]
  | .ok _ => if m.isStopped then [haltText m] else []

theorem remark_eq_closing (m : Machine) (count : Nat) :
    remark (m.resultOf count) m = closing m := by
  unfold closing Machine.resultOf
  cases m.state.fault? <;> rfl

/-- Stepping is a run of the machine after a start, with a line for each instruction. -/
theorem stepLoop_resumed (m : Machine) {count : Nat} (some_steps : 0 < count) :
    let resumed := m.start.machine
    let direct := resumed.run count
    (stepLoop count (wake m) #[]).1 = direct.machine ∧
    eventsIn (stepLoop count (wake m) #[]).2.toList = direct.events ∧
    textsIn (stepLoop count (wake m) #[]).2.toList = (instructionLines count resumed ++
      remark direct.result direct.machine).map (· ++ "\n") := by
  intro resumed direct
  rw [stepLoop_wake m some_steps]
  obtain calm | ⟨fault, panicked⟩ := Machine.calm_or_panicked m.state
  · have active : resumed.isStopped = false := Machine.isStopped_start calm
    have ran : direct = _ := Machine.run_eq (Machine.fault?_eq_none_of_active active) count
    rw [ran, remark_eq_closing]
    exact stepLoop_eq active count #[]
  · have same : resumed = m := congrArg Outcome.machine (Machine.start_panicked panicked)
    have stopped := Machine.isStopped_panicked panicked
    have ran : direct = ⟨.ok 0, resumed, []⟩ := Machine.run_stopped (same ▸ stopped) count
    have no_line : instructionLines count m = [] := by
      rw [instructionLines, (Machine.steps_stopped stopped count).2.2]
      rfl
    have halted : remark (.ok 0) m = [haltText m] := if_pos stopped
    show (stepLoop count resumed #[]).1 = _ ∧ eventsIn (stepLoop count resumed #[]).2.toList = _ ∧
      textsIn (stepLoop count resumed #[]).2.toList = _
    rw [ran, same, stepLoop_stopped stopped some_steps, no_line, halted]
    exact ⟨rfl, rfl, rfl⟩

theorem step_eq {s : Session} {argument : List Char} {n : Int}
    (counted : numberOr 1 argument = .ok n) :
    s.step argument =
      .ok ({ s with machine := (stepLoop n.toNat (wake s.machine) #[]).1 },
        (stepLoop n.toNat (wake s.machine) #[]).2.toList) := by
  rw [step, counted]
  rfl

theorem run_panicked {s : Session} {argument : List Char} {n : Int} {fault : Fault}
    (limited : numberOr defaultLimit argument = .ok n) (panicked : s.machine.state = .panicked fault) :
    s.run argument = .ok (s, [.line (haltText s.machine)]) := by
  rw [run, limited, ok_bind, panicked]
  rfl

theorem run_calm {s : Session} {argument : List Char} {n : Int}
    (limited : numberOr defaultLimit argument = .ok n) (calm : s.machine.state.fault? = none) :
    s.run argument =
      .ok ({ s with machine :=
          (runLoop s.breakpoints n.toNat 0 s.machine.start.machine #[]).conclude.1 },
        (runLoop s.breakpoints n.toNat 0 s.machine.start.machine #[]).conclude.2) := by
  rw [run, limited, ok_bind]
  cases state : s.machine.state with
  | panicked fault => simp [state, RunState.fault?] at calm
  | idle | running | halted => rfl

/-- Without breakpoints `run` is a run of the machine after a start. -/
theorem run_resumed {s : Session} {argument : List Char} {n : Int}
    (limited : numberOr defaultLimit argument = .ok n) (unbroken : s.breakpoints = []) :
    let direct := s.machine.start.machine.run n.toNat
    ∃ ran, s.run argument = .ok ({ s with machine := direct.machine }, ran) ∧
      eventsIn ran = direct.events ∧
      textsIn ran = [(if s.machine.state.fault?.isSome then haltText s.machine
        else conclusion direct.result direct.machine) ++ "\n"] := by
  intro direct
  obtain calm | ⟨fault, panicked⟩ := Machine.calm_or_panicked s.machine.state
  · obtain ⟨machine, logged, said⟩ := conclude_runLoop (Machine.isStopped_start calm) n.toNat
    have ran := run_calm limited calm
    rw [unbroken, machine] at ran
    rw [calm, unbroken]
    exact ⟨_, ran, logged, said⟩
  · have same : s.machine.start.machine = s.machine :=
      congrArg Outcome.machine (Machine.start_panicked panicked)
    have direct_eq : direct = ⟨.ok 0, s.machine, []⟩ := by
      show s.machine.start.machine.run n.toNat = _
      rw [same, Machine.run_stopped (Machine.isStopped_panicked panicked)]
    rw [direct_eq, panicked]
    exact ⟨_, run_panicked limited panicked, rfl, rfl⟩

/-- From every state of the machine, stepping `n` times, running for at most `n` steps without
breakpoints and a run of the machine after a start lead to the same machine and tell the host the
same. Stepping has a line for each instruction that completes, with the bytes that were fetched for
it, and what is said of a run counts as the machine's own run does. -/
theorem drivers_agree [Heap] (s : Session) (files : Directory)
    {stepping running count limit : List Char} {n : Int} (steps : Line.parse stepping = .command .step count)
    (runs : Line.parse running = .command .run limit)
    (counted : numberOr 1 count = .ok n) (limited : numberOr defaultLimit limit = .ok n)
    (positive : 1 ≤ n) :
    let resumed := s.machine.start
    let direct := resumed.machine.run n.toNat
    let unbroken := { s with breakpoints := [] }
    ∃ stepped ran,
      s.react files stepping = ⟨{ s with machine := direct.machine }, stepped, .ok false⟩ ∧
      unbroken.react files running =
        ⟨{ unbroken with machine := direct.machine }, ran, .ok false⟩ ∧
      eventsIn stepped = resumed.events ++ direct.events ∧
      eventsIn ran = resumed.events ++ direct.events ∧
      textsIn stepped = (instructionLines n.toNat resumed.machine ++
        remark direct.result direct.machine).map (· ++ "\n") ∧
      textsIn ran = [(if s.machine.state.fault?.isSome then haltText s.machine
        else conclusion direct.result direct.machine) ++ "\n"] ∧
      (∀ k, direct.result = .ok k → k = Machine.completed n.toNat resumed.machine) ∧
      ∀ k < Machine.completed n.toNat resumed.machine, ∃ b₀ b₁ past,
        let m := resumed.machine.steps k
        m.fetch = .ok ((b₀, b₁), past) ∧
        instructionLine m = "  " ++
          s!"{addressHex m.pc.toNat}: {byteHex b₀} {byteHex b₁}  {(decodeBytes b₀ b₁).text}" ∧
        m.step.machine.last = some (decodeBytes b₀ b₁) := by
  intro resumed direct unbroken
  have some_steps : 0 < n.toNat := by omega
  obtain ⟨machine, stepped_events, stepped_texts⟩ := stepLoop_resumed s.machine some_steps
  obtain ⟨ran, run, ran_events, ran_texts⟩ := run_resumed (s := unbroken) limited rfl
  have step := step_eq (s := s) counted
  rw [machine] at step
  have silent : resumed.events = [] := Machine.events_start s.machine
  rw [silent]
  refine ⟨_, ran, react_command steps step, react_command runs run, stepped_events, ran_events,
    stepped_texts, ran_texts, ?_, ?_⟩
  · intro k result
    exact (Machine.completed_of_run result).symm
  · intro k inside
    exact line_of_step_ok (step_ok_of_lt_completed inside)

theorem run_lostReturn : (Machine.lostReturn.start.machine.run 2).result =
    .error ⟨0x200, .stackUnderflow⟩ := by
  have calm : Machine.lostReturn.state.fault? = none := rfl
  have due := (Machine.dueFault?_start calm).trans Machine.due_lostReturn
  exact (Machine.run_of_due (Machine.isStopped_start calm) due 1).1

/-- Both commands tell of the fault in the middle of what they were asked for. -/
theorem drivers_agree_on_lost_return :
    let _ : Heap := .unlimited
    let s := ofMachine Machine.lostReturn none
    (Line.parse "step 2".toList = .command .step ['2'] ∧
      Line.parse "run 2".toList = .command .run ['2']) ∧
    (numberOr 1 ['2'] = .ok 2 ∧ numberOr defaultLimit ['2'] = .ok 2) ∧
    (s.react .empty "step 2".toList).session.machine =
      (s.react .empty "run 2".toList).session.machine ∧
    eventsIn (s.react .empty "step 2".toList).transcript =
      eventsIn (s.react .empty "run 2".toList).transcript ∧
    textsIn (s.react .empty "run 2".toList).transcript =
      ["Fatal at 0x200: RET: empty call stack\n"] := by
  intro _ s
  have parsed : Line.parse "step 2".toList = .command .step ['2'] ∧
      Line.parse "run 2".toList = .command .run ['2'] := by decide
  have counts : numberOr 1 ['2'] = .ok 2 ∧ numberOr defaultLimit ['2'] = .ok 2 := ⟨rfl, rfl⟩
  obtain ⟨stepped, ran, step, run, stepped_events, ran_events, -, ran_texts, -⟩ :=
    drivers_agree s .empty parsed.1 parsed.2 counts.1 counts.2 (by decide)
  have unbroken : { s with breakpoints := [] } = s := rfl
  rw [unbroken] at run
  refine ⟨parsed, counts, ?_, ?_, ?_⟩
  · rw [step, run]
  · rw [step, run]
    exact stepped_events.trans ran_events.symm
  · rw [run]
    refine ran_texts.trans ?_
    have calm : s.machine.state.fault? = none := rfl
    show [(if s.machine.state.fault?.isSome then _ else
      conclusion (Machine.lostReturn.start.machine.run 2).result _) ++ "\n"] = _
    rw [run_lostReturn, calm]
    decide +kernel

end Monitor.Session

end ChipEight
