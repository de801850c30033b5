import ChipEight.Proofs.Monitor.Drivers
import ChipEight.Proofs.Monitor.Reload

/-!
# Breakpoints

However a program is cut up by breakpoints and limits, as long as it is taken up again it takes the
steps that it takes in one go (`interrupted_runs_eq_run`).
-/

namespace ChipEight

open Text

namespace Machine

variable {m : Machine}

/-! ### Steps that complete -/

theorem step_ok_of_all {n : Nat} (all : completed (n + 1) m = n + 1) :
    m.step.result = .ok true ∧ completed n m.step.machine = n := by
  by_cases done : m.step.result = .ok true
  · rw [completed_of_ok done] at all
    exact ⟨done, Nat.succ.inj all⟩
  · rw [completed_of_not_ok done] at all
    cases all

theorem fault?_steps_of_all {n : Nat} (calm : m.state.fault? = none) (all : completed n m = n) :
    (m.steps n).state.fault? = none := by
  induction n generalizing m with
  | zero => exact calm
  | succ n ih =>
    obtain ⟨done, rest⟩ := step_ok_of_all all
    have next := fault?_step calm
    rw [done] at next
    exact ih next rest

theorem executions_step_of_ok (done : m.step.result = .ok true) :
    (executions m.step.events).length = 1 := by
  have stepped := m.stepped_step
  generalize m.step = outcome at stepped done
  cases stepped with
  | stopped | short | faulted => cases done
  | completed => split <;> rfl

theorem length_executions_of_all {n : Nat} (all : completed n m = n) :
    (executions (m.eventsOfSteps n)).length = n := by
  induction n generalizing m with
  | zero => rfl
  | succ n ih =>
    obtain ⟨done, rest⟩ := step_ok_of_all all
    rw [eventsOfSteps_succ, executions_append, List.length_append, executions_step_of_ok done,
      ih rest, Nat.add_comm]

theorem running_steps_of_all {n : Nat} (running : m.state = .running) (all : completed n m = n)
    (no_end : ∀ pc, .halted pc .endOfProgram ∉ m.eventsOfSteps n) :
    (m.steps n).state = .running := by
  induction n generalizing m with
  | zero => exact running
  | succ n ih =>
    obtain ⟨done, rest⟩ := step_ok_of_all all
    obtain ⟨active, free⟩ := free_of_step_ok done
    have events := events_step active free
    have state := state_of_effect (step_effect active free)
    rw [eventsOfSteps_succ] at no_end
    by_cases op : classify m.nextWord = .finish
    · rw [if_pos op] at events
      have told : .halted m.pc .endOfProgram ∈ m.step.events := by simp [events]
      exact absurd (List.mem_append_left _ told) (no_end m.pc)
    · rw [if_neg op] at state
      exact ih state rest fun pc told => no_end pc (List.mem_append_right _ told)

/-- Unless there is a fault, the steps that complete are all that matter. -/
theorem steps_completed {n : Nat} (calm : m.state.fault? = none)
    (calm_end : (m.steps n).state.fault? = none) :
    m.steps n = m.steps (completed n m) ∧
    m.eventsOfSteps n = m.eventsOfSteps (completed n m) ∧
    completed (completed n m) m = completed n m := by
  induction n generalizing m with
  | zero => exact ⟨rfl, rfl, rfl⟩
  | succ n ih =>
    have next := fault?_step calm
    by_cases done : m.step.result = .ok true
    · rw [done] at next
      obtain ⟨machine, logged, all⟩ := ih next calm_end
      rw [completed_of_ok done, completed_of_ok done, steps_succ, steps_succ, eventsOfSteps_succ,
        eventsOfSteps_succ, ← machine, ← logged, all]
      exact ⟨rfl, rfl, rfl⟩
    · rw [(steps_of_not_ok done n).1, next] at calm_end
      have stopped : m.isStopped = true := by
        cases active : m.isStopped with
        | true => rfl
        | false =>
          obtain ⟨fault, failed, -⟩ | ⟨ok, -⟩ := step_of_active active
          · rw [failed] at calm_end
            cases calm_end
          · exact absurd ok done
      obtain ⟨machine, logged, none_done⟩ := steps_stopped stopped (n + 1)
      rw [machine, logged, none_done]
      exact ⟨rfl, rfl, rfl⟩

theorem panicsTold_eventsOfSteps (calm : m.state.fault? = none) (n : Nat) :
    panicsTold (m.eventsOfSteps n) = (m.steps n).state.fault?.toList := by
  have single : ∀ move ∈ List.replicate n Operation.step, ∀ limit, move ≠ .run limit := by
    intro move taken
    rw [(List.mem_replicate.mp taken).2]
    exact fun _ => Operation.noConfusion
  have no_reset : .reset ∉ List.replicate n Operation.step := by simp
  have told := panicsTold_eventsOfAll (m := m) single no_reset
  rw [if_pos calm] at told
  exact told

/-! ### Advances -/

/-- The machine, running. Two machines that are the same running differ in their run states only. -/
def resumed (m : Machine) : Machine := { m with state := .running }

theorem start_resumed (calm : m.state.fault? = none) : m.start.machine = m.resumed :=
  congrArg Outcome.machine (start_calm calm)

theorem resumed_of_running (running : m.state = .running) : m.resumed = m := by
  rw [resumed, ← running]

/-- From one machine to the other there are `k` steps, all of which complete, and no others. -/
structure Advances (m m' : Machine) (events : List Event) (k : Nat) : Prop where
  all : completed k m.resumed = k
  machine : m'.resumed = (m.resumed.steps k).resumed
  calm : m'.state.fault? = none
  logged : m.resumed.eventsOfSteps k ⊆ events
  executed : executions events = executions (m.resumed.eventsOfSteps k)

theorem advances_refl (calm : m.state.fault? = none) : m.Advances m [] 0 where
  all := rfl
  machine := rfl
  calm := calm
  logged := List.Subset.refl _
  executed := rfl

/-- A machine that is halted on the way, but for the end of its program, goes on where it was. -/
theorem Advances.trans {m₁ m₂ : Machine} {first second : List Event} {a b : Nat}
    (before : m.Advances m₁ first a) (no_end : ∀ pc, .halted pc .endOfProgram ∉ first)
    (after : m₁.Advances m₂ second b) : m.Advances m₂ (first ++ second) (a + b) := by
  have running : (m.resumed.steps a).state = .running := by
    apply running_steps_of_all rfl before.all
    intro pc told
    exact no_end pc (before.logged told)
  have middle : m₁.resumed = m.resumed.steps a :=
    before.machine.trans (resumed_of_running running)
  obtain ⟨all, machine, calm, logged, executed⟩ := after
  rw [middle] at all machine logged executed
  refine ⟨?_, ?_, calm, ?_, ?_⟩
  · rw [completed_add, before.all, all]
  · rw [machine, steps_add]
  · rw [eventsOfSteps_add]
    exact List.append_subset.mpr ⟨List.subset_append_of_subset_left _ before.logged,
      List.subset_append_of_subset_right _ logged⟩
  · rw [executions_append, before.executed, executed, eventsOfSteps_add, executions_append]

end Machine

namespace Monitor.Session

variable {s : Session}

/-! ### Lines -/

/-- What is said to some lines, each typed at the files that were there then. -/
def transcriptAll [Heap] (s : Session) : List (Directory × List Char) → List Entry
  | [] => []
  | (files, line) :: typed =>
    (s.react files line).transcript ++ (s.react files line).session.transcriptAll typed

/-- A line that lets the machine run, or go on. -/
def LetsRun (line : List Char) : Prop :=
  ∃ verb argument, (verb = .run ∨ verb = .proceed) ∧ Line.parse line = .command verb argument

theorem exists_advances_of_runs {m : Machine} {breakpoints : List Int} {limit : Nat}
    {r : RunResult} (runs : Session.Runs breakpoints m.resumed limit 0 [] r)
    (no_fault : panicsTold (eventsIn r.conclude.2) = []) :
    ∃ k, m.Advances r.conclude.1 (eventsIn r.conclude.2) k := by
  have said := eventsIn_conclude r
  cases runs with
  | @breakpoint k log _ going _ all logged =>
    have stop := Machine.stop_calm (Machine.fault?_eq_none_of_active going)
    dsimp only at said
    rw [stop, logged, List.nil_append] at said
    refine ⟨k, all, ?_, ?_, ?_, ?_⟩
    · show (m.resumed.steps k).stop.machine.resumed = _
      rw [stop]
      rfl
    · show (m.resumed.steps k).stop.machine.state.fault? = none
      rw [stop]
      rfl
    · rw [said]
      exact List.subset_append_left _ _
    · rw [said, executions_append]
      exact List.append_nil _
  | fault panicked logged =>
    rw [said, logged, List.nil_append, List.append_nil, Machine.panicsTold_eventsOfSteps rfl,
      panicked] at no_fault
    cases no_fault
  | ended calm logged =>
    obtain ⟨machine, events, all⟩ := Machine.steps_completed (m := m.resumed) rfl calm
    rw [logged, List.nil_append, List.append_nil, events] at said
    refine ⟨_, all, congrArg Machine.resumed machine, calm, ?_, congrArg executions said⟩
    rw [said]
    exact List.Subset.refl _

theorem exists_advances [Heap] {files : Directory} {line : List Char} (runs : LetsRun line)
    (calm : s.machine.state.fault? = none)
    (no_fault : panicsTold (eventsIn (s.react files line).transcript) = []) :
    ∃ k, s.machine.Advances (s.react files line).session.machine
      (eventsIn (s.react files line).transcript) k := by
  obtain ⟨verb, argument, run, typed⟩ := runs
  have performed : s.perform files verb argument = s.run argument := by
    obtain rfl | rfl := run <;> rfl
  cases limited : numberOr defaultLimit argument with
  | error error =>
    have failed : s.run argument = .error error := by
      rw [Session.run, limited]
      rfl
    have reaction : s.react files line = ⟨s, [], .error error⟩ := by
      rw [react, typed, performLine, performed, failed]
    rw [reaction]
    exact ⟨0, Machine.advances_refl calm⟩
  | ok n =>
    have loop := runs_runLoop s.breakpoints (Machine.isStopped_start calm) n.toNat 0 #[]
    rw [react_command typed (performed.trans (run_calm limited calm))] at no_fault ⊢
    rw [Machine.start_resumed calm] at loop no_fault ⊢
    exact exists_advances_of_runs loop no_fault

/-! ### Many lines -/

theorem exists_advances_of_lines [Heap] {typed : List (Directory × List Char)}
    (runs : ∀ entry ∈ typed, LetsRun entry.2) (calm : s.machine.state.fault? = none)
    (no_fault : panicsTold (eventsIn (s.transcriptAll typed)) = [])
    (no_end : ∀ pc, .halted pc .endOfProgram ∉ eventsIn (s.transcriptAll typed.dropLast)) :
    ∃ t, s.machine.Advances (s.reactAll typed).machine (eventsIn (s.transcriptAll typed)) t := by
  induction typed generalizing s with
  | nil => exact ⟨0, Machine.advances_refl calm⟩
  | cons entry typed ih =>
    obtain ⟨files, line⟩ := entry
    rw [List.forall_mem_cons] at runs
    rw [transcriptAll, eventsIn_append] at no_fault ⊢
    rw [panicsTold_append, List.append_eq_nil_iff] at no_fault
    obtain ⟨k, first⟩ := exists_advances runs.1 calm no_fault.1
    cases typed with
    | nil =>
      have none_more : eventsIn ((s.react files line).session.transcriptAll []) = [] := rfl
      rw [none_more, List.append_nil]
      exact ⟨k, first⟩
    | cons next typed =>
      rw [List.dropLast_cons_cons, transcriptAll, eventsIn_append] at no_end
      obtain ⟨t, rest⟩ := ih runs.2 first.calm no_fault.2 fun pc told =>
        no_end pc (List.mem_append_right _ told)
      exact ⟨k + t, first.trans (fun pc told => no_end pc (List.mem_append_left _ told)) rest⟩

/-- A program that is run line by line, each line going on where a breakpoint or a limit stopped the
one before, is as it would have been after one run of as many steps: the same machine but for its run
state, by way of the same instructions. -/
theorem interrupted_runs_eq_run [Heap] {typed : List (Directory × List Char)}
    (runs : ∀ entry ∈ typed, LetsRun entry.2) (calm : s.machine.state.fault? = none)
    (no_fault : panicsTold (eventsIn (s.transcriptAll typed)) = [])
    (no_end : ∀ pc, .halted pc .endOfProgram ∉ eventsIn (s.transcriptAll typed.dropLast)) :
    let executed := executions (eventsIn (s.transcriptAll typed))
    let whole := s.machine.start.machine.run executed.length
    let final := (s.reactAll typed).machine
    whole.result = .ok executed.length ∧ executions whole.events = executed ∧
    { final with state := whole.machine.state } = whole.machine ∧
    final.state.fault? = none ∧ whole.machine.state.fault? = none ∧
    final.count = s.machine.count + executed.length := by
  intro executed whole final
  obtain ⟨t, all, machine, calm_end, -, same⟩ :=
    exists_advances_of_lines runs calm no_fault no_end
  have length : executed.length = t :=
    (congrArg List.length same).trans (Machine.length_executions_of_all all)
  have start : s.machine.start.machine = s.machine.resumed := Machine.start_resumed calm
  have calm_whole : (s.machine.resumed.steps t).state.fault? = none :=
    Machine.fault?_steps_of_all rfl all
  have run : whole = ⟨.ok t, s.machine.resumed.steps t, s.machine.resumed.eventsOfSteps t⟩ := by
    show s.machine.start.machine.run executed.length = _
    rw [length, start, Machine.run_eq rfl, Machine.resultOf_calm calm_whole, all]
  have count : final.count = (s.machine.resumed.steps t).count := by
    show final.resumed.count = _
    rw [machine]
    rfl
  have apart : { final with state := (s.machine.resumed.steps t).state } =
      s.machine.resumed.steps t :=
    congrArg (fun m : Machine => { m with state := (s.machine.resumed.steps t).state }) machine
  rw [run, length]
  refine ⟨rfl, same.symm, apart, calm_end, calm_whole, ?_⟩
  rw [count, Machine.count_steps, Machine.length_executions_of_all all]
  rfl

/-- Two additions and the end of the program. -/
def shortProgram : Machine :=
  { Machine.powerOn 0 true with
    memory := Memory.writeBytes (Vector.replicate 4096 0) 0x200 [0x71, 0x05, 0x71, 0x01, 0x00, 0x00] }

/-- The second line goes on at the breakpoint and the third to the end. -/
theorem interrupted_runs_eq_run_of_short_program :
    let _ : Heap := .unlimited
    let s : Session := ⟨shortProgram, none, [0x202]⟩
    let typed := [(Directory.empty, "run".toList), (Directory.empty, "c 1".toList),
      (Directory.empty, "continue".toList)]
    let whole := s.machine.start.machine.run 3
    let final := (s.reactAll typed).machine
    (∀ entry ∈ typed, LetsRun entry.2) ∧ s.machine.state.fault? = none ∧
    panicsTold (eventsIn (s.transcriptAll typed)) = [] ∧
    (∀ pc, .halted pc .endOfProgram ∉ eventsIn (s.transcriptAll typed.dropLast)) ∧
    whole.result = .ok 3 ∧ { final with state := whole.machine.state } = whole.machine ∧
    final.count = 3 := by
  intro _ s typed whole final
  have runs : ∀ entry ∈ typed, LetsRun entry.2 := by
    intro entry mem
    obtain rfl | rfl | rfl : entry = (.empty, "run".toList) ∨ entry = (.empty, "c 1".toList) ∨
        entry = (.empty, "continue".toList) := by simpa [typed] using mem
    · exact ⟨.run, [], .inl rfl, by decide⟩
    · exact ⟨.proceed, ['1'], .inr rfl, by decide⟩
    · exact ⟨.proceed, [], .inr rfl, by decide⟩
  have calm : s.machine.state.fault? = none := rfl
  have no_fault : panicsTold (eventsIn (s.transcriptAll typed)) = [] := by decide +kernel
  have no_end : ∀ pc, .halted pc .endOfProgram ∉ eventsIn (s.transcriptAll typed.dropLast) := by
    have told : haltsTold (eventsIn (s.transcriptAll typed.dropLast)) = [(0x202, .stopped)] := by
      decide +kernel
    intro pc mem
    have halt : (pc, .endOfProgram) ∈ haltsTold (eventsIn (s.transcriptAll typed.dropLast)) :=
      List.mem_filterMap.mpr ⟨_, mem, rfl⟩
    rw [told] at halt
    simp at halt
  have executed : (executions (eventsIn (s.transcriptAll typed))).length = 3 := by decide +kernel
  obtain ⟨result, -, apart, -, -, count⟩ := interrupted_runs_eq_run runs calm no_fault no_end
  rw [executed] at result apart count
  exact ⟨runs, calm, no_fault, no_end, result, apart, count⟩

end Monitor.Session

end ChipEight
