import ChipEight.Proofs.Monitor.Breakpoints

/-!
# Where a run stops

A run comes to an end at the first of its limit, a halt, a breakpoint and a fault
(`run_ends_at_first_stop`). The first step is taken whatever stands at its address, so that a run
goes on from the breakpoint that stopped the one before.
-/

namespace ChipEight

open Text

namespace Machine

variable {m : Machine}

/-- None of the first `k` steps faults. -/
def Unfaulted (m : Machine) (k : Nat) : Prop :=
  ∀ j < k, ∀ fault, (m.steps j).step.result ≠ .error fault

theorem Unfaulted.succ {k : Nat} (free : m.Unfaulted k)
    (next : ∀ fault, (m.steps k).step.result ≠ .error fault) : m.Unfaulted (k + 1) := by
  intro j inside
  obtain before | rfl := Nat.lt_succ_iff_lt_or_eq.mp inside
  · exact free j before
  · exact next

theorem completed_of_unfaulted {k : Nat} (active : m.isStopped = false) (free : m.Unfaulted k)
    (going : ∀ j, 1 ≤ j → j < k → (m.steps j).state ≠ .halted) :
    completed k m = k ∧ (m.steps k).state.fault? = none := by
  induction k with
  | zero => exact ⟨rfl, fault?_eq_none_of_active active⟩
  | succ k ih =>
    obtain ⟨all, calm⟩ := ih (fun j inside => free j (by omega)) fun j some_steps inside =>
      going j some_steps (by omega)
    have active' : (m.steps k).isStopped = false := by
      cases k with
      | zero => exact active
      | succ k => exact isStopped_eq_false_of_calm calm (going _ (by omega) (by omega))
    obtain ⟨fault, raised, -⟩ | ⟨done, next⟩ := step_of_active active'
    · exact absurd raised (free k (by omega) fault)
    · rw [completed_succ_last, all, completed_of_ok done, steps_succ_last]
      exact ⟨rfl, next⟩

theorem isStopped_eq_false_of_all {k : Nat} (all : completed k m = k)
    (active : (m.steps k).isStopped = false) : m.isStopped = false := by
  cases k with
  | zero => exact active
  | succ k => exact (free_of_step_ok (step_ok_of_all all).1).1

theorem exists_steps_of_mem_executions {k : Nat} {e : UInt16 × Instruction}
    (executed : e ∈ executions (m.eventsOfSteps k)) : ∃ j < k, e.1 = (m.steps j).pc := by
  induction k generalizing m with
  | zero => cases executed
  | succ k ih =>
    rw [eventsOfSteps_succ, executions_append, List.mem_append] at executed
    obtain first | later := executed
    · obtain single | ⟨none_executed, -⟩ := m.executions_step
      · rw [single, List.mem_singleton] at first
        exact ⟨0, Nat.succ_pos k, congrArg Prod.fst first⟩
      · rw [none_executed] at first
        cases first
    · obtain ⟨j, inside, same⟩ := ih later
      exact ⟨j + 1, Nat.succ_lt_succ inside, same⟩

theorem exists_steps_of_mem_tail {k : Nat} {e : UInt16 × Instruction}
    (later : e ∈ (executions (m.eventsOfSteps k)).tail) :
    ∃ j, 1 ≤ j ∧ j < k ∧ e.1 = (m.steps j).pc := by
  cases k with
  | zero => cases later
  | succ k =>
    rw [eventsOfSteps_succ, executions_append] at later
    obtain single | ⟨none_executed, stopped⟩ := m.executions_step
    · rw [single] at later
      obtain ⟨j, inside, same⟩ := exists_steps_of_mem_executions later
      exact ⟨j + 1, by omega, by omega, same⟩
    · rw [none_executed, (steps_stopped stopped k).2.1] at later
      cases later

end Machine

namespace Monitor.Session

variable {breakpoints : List Int} {m : Machine}

/-! ### The loop -/

/-- As long as the steps complete and meet no breakpoint the loop goes on with the next one. -/
theorem runLoop_add {k done : Nat} (all : Machine.completed k m = k)
    (active : (m.steps k).isStopped = false)
    (unbroken : ∀ j < k, done + j ≠ 0 → ((m.steps j).pc.toNat : Int) ∉ breakpoints)
    (limit : Nat) (log : List Event) :
    runLoop breakpoints (k + limit) done m log.toArray =
      runLoop breakpoints limit (done + k) (m.steps k) (log ++ m.eventsOfSteps k).toArray := by
  induction k generalizing m done log with
  | zero =>
    have silent : log ++ m.eventsOfSteps 0 = log := List.append_nil log
    rw [Nat.zero_add, silent]
    rfl
  | succ k ih =>
    obtain ⟨taken, rest⟩ := Machine.step_ok_of_all all
    have active' := Machine.isStopped_eq_false_of_all rest active
    -- From the second step on no breakpoint is let pass, so the loop is entered anew with `done + 1`.
    have pass : ¬(done ≠ 0 ∧ (m.pc.toNat : Int) ∈ breakpoints) :=
      fun met => unbroken 0 (Nat.succ_pos k) met.1 met.2
    have unbroken' : ∀ j < k, done + 1 + j ≠ 0 →
        ((m.step.machine.steps j).pc.toNat : Int) ∉ breakpoints :=
      fun j inside _ => unbroken (j + 1) (by omega) (by omega)
    have next := ih rest active unbroken' (log ++ m.step.events)
    rw [List.append_assoc, Nat.add_right_comm done, Nat.add_assoc done] at next
    rw [Nat.add_right_comm, runLoop, if_neg pass]
    dsimp only
    rw [taken, List.toArray_appendList]
    dsimp only
    rw [active', if_neg Bool.false_ne_true, next]
    rfl

/-- The step after which a run of `limit` more of them stops. -/
theorem runLoop_last {limit done : Nat} (taken : m.step.result = .ok true)
    (pass : ¬(done ≠ 0 ∧ (m.pc.toNat : Int) ∈ breakpoints))
    (stops : limit = 0 ∨ m.step.machine.isStopped = true ∨
      (m.step.machine.pc.toNat : Int) ∈ breakpoints) (log : List Event) :
    runLoop breakpoints (limit + 1) done m log.toArray =
      ⟨m.step.machine, (log ++ m.step.events).toArray, done + 1,
        if limit ≠ 0 ∧ m.step.machine.isStopped = false ∧
          (m.step.machine.pc.toNat : Int) ∈ breakpoints then .breakpoint else .over⟩ := by
  rw [runLoop, if_neg pass]
  dsimp only
  rw [taken, List.toArray_appendList]
  dsimp only
  cases stopped : m.step.machine.isStopped with
  | true => simp
  | false =>
    cases limit with
    | zero => simp [runLoop]
    | succ limit =>
      have hit : (m.step.machine.pc.toNat : Int) ∈ breakpoints := by
        simpa [stopped] using stops
      simp [runLoop, hit]

theorem runLoop_raised {limit done : Nat} {fault : Fault} (raised : m.step.result = .error fault)
    (pass : ¬(done ≠ 0 ∧ (m.pc.toNat : Int) ∈ breakpoints)) (log : List Event) :
    runLoop breakpoints (limit + 1) done m log.toArray =
      ⟨m.step.machine, (log ++ m.step.events).toArray, done, .fault fault⟩ := by
  rw [runLoop, if_neg pass]
  dsimp only
  rw [raised, List.toArray_appendList]

/-! ### Stops -/

/-- After `k` steps a run of `n` of them stops, if it has not done so before. -/
def StopsAt (breakpoints : List Int) (n : Nat) (m : Machine) (k : Nat) : Prop :=
  k = n ∨ (m.steps k).state = .halted ∨ ((m.steps k).pc.toNat : Int) ∈ breakpoints

structure FirstStop (breakpoints : List Int) (n : Nat) (m : Machine) (k : Nat) : Prop where
  positive : 1 ≤ k
  stops : StopsAt breakpoints n m k
  first : ∀ j, 1 ≤ j → j < k → ¬StopsAt breakpoints n m j

/-- The run goes on after `k` steps. -/
structure Passes (breakpoints : List Int) (n : Nat) (m : Machine) (k : Nat) : Prop where
  free : m.Unfaulted k
  unstopped : ∀ j, 1 ≤ j → j ≤ k → ¬StopsAt breakpoints n m j

/-- The run goes on after `k` steps, and the next one raises a fault. -/
structure FirstFault (breakpoints : List Int) (n : Nat) (m : Machine) (k : Nat) (fault : Fault) :
    Prop extends Passes breakpoints n m k where
  raised : (m.steps k).step.result = .error fault

/-- A breakpoint is the only reason to stop after `k` steps. -/
def Interrupts (breakpoints : List Int) (n : Nat) (m : Machine) (k : Nat) : Prop :=
  k < n ∧ (m.steps k).state ≠ .halted ∧ ((m.steps k).pc.toNat : Int) ∈ breakpoints

instance {n k : Nat} : Decidable (Interrupts breakpoints n m k) :=
  inferInstanceAs (Decidable (_ ∧ _ ∧ _))

variable {n k : Nat} {fault : Fault}

theorem FirstStop.passes (stop : FirstStop breakpoints n m (k + 1)) (free : m.Unfaulted (k + 1)) :
    Passes breakpoints n m k where
  free j inside := free j (by omega)
  unstopped j some_steps inside := stop.first j some_steps (by omega)

namespace Passes

theorem lt (pass : Passes breakpoints n m k) (positive : 1 ≤ n) : k < n :=
  Nat.lt_of_not_le fun beyond => pass.unstopped n positive beyond (.inl rfl)

theorem completed (pass : Passes breakpoints n m k) (active : m.isStopped = false) :
    Machine.completed k m = k ∧ (m.steps k).isStopped = false := by
  have going : ∀ j, 1 ≤ j → j ≤ k → (m.steps j).state ≠ .halted :=
    fun j some_steps inside halted => pass.unstopped j some_steps inside (.inr (.inl halted))
  obtain ⟨all, calm⟩ := Machine.completed_of_unfaulted active pass.free
    fun j some_steps inside => going j some_steps (Nat.le_of_lt inside)
  refine ⟨all, ?_⟩
  cases k with
  | zero => exact active
  | succ k => exact Machine.isStopped_eq_false_of_calm calm (going _ (by omega) (Nat.le_refl _))

theorem unbroken (pass : Passes breakpoints n m k) :
    ¬(k ≠ 0 ∧ ((m.steps k).pc.toNat : Int) ∈ breakpoints) :=
  fun met => pass.unstopped k (Nat.one_le_iff_ne_zero.mpr met.1) (Nat.le_refl k) (.inr (.inr met.2))

theorem runLoop_eq (pass : Passes breakpoints n m k) (active : m.isStopped = false) (rest : Nat) :
    runLoop breakpoints (k + rest) 0 m #[] =
      runLoop breakpoints rest k (m.steps k) (m.eventsOfSteps k).toArray := by
  obtain ⟨all, active'⟩ := pass.completed active
  have unbroken : ∀ j < k, 0 + j ≠ 0 → ((m.steps j).pc.toNat : Int) ∉ breakpoints :=
    fun j inside met hit => pass.unstopped j (by omega) (by omega) (.inr (.inr hit))
  have loop := runLoop_add all active' unbroken rest []
  rwa [Nat.zero_add] at loop

theorem succ (pass : Passes breakpoints n m k)
    (next : ∀ fault, (m.steps k).step.result ≠ .error fault)
    (going : ¬StopsAt breakpoints n m (k + 1)) : Passes breakpoints n m (k + 1) where
  free := pass.free.succ next
  unstopped j some_steps inside := by
    obtain before | rfl := Nat.lt_succ_iff_lt_or_eq.mp (Nat.lt_succ_of_le inside)
    · exact pass.unstopped j some_steps (Nat.le_of_lt_succ before)
    · exact going

end Passes

/-- One of the two happens to every run. -/
theorem exists_firstStop_or_firstFault (breakpoints : List Int) (positive : 1 ≤ n)
    (m : Machine) :
    (∃ k, FirstStop breakpoints n m k ∧ m.Unfaulted k) ∨
    ∃ k fault, FirstFault breakpoints n m k fault := by
  -- As far as there has been neither, there is a next step to look at.
  have search : ∀ k, ((∃ k, FirstStop breakpoints n m k ∧ m.Unfaulted k) ∨
      ∃ k fault, FirstFault breakpoints n m k fault) ∨ Passes breakpoints n m k := by
    intro k
    induction k with
    | zero => exact .inr ⟨fun j inside => by omega, fun j some_steps inside => by omega⟩
    | succ k ih =>
      obtain found | pass := ih
      · exact .inl found
      cases result : (m.steps k).step.result with
      | error fault => exact .inl (.inr ⟨k, fault, pass, result⟩)
      | ok taken =>
        have next : ∀ fault, (m.steps k).step.result ≠ .error fault := by simp [result]
        by_cases stops : StopsAt breakpoints n m (k + 1)
        · have first : FirstStop breakpoints n m (k + 1) :=
            ⟨Nat.succ_pos k, stops, fun j some_steps inside =>
              pass.unstopped j some_steps (Nat.le_of_lt_succ inside)⟩
          exact .inl (.inl ⟨k + 1, first, pass.free.succ next⟩)
        · exact .inr (pass.succ next stops)
  obtain found | pass := search n
  · exact found
  · exact absurd (pass.lt positive) (Nat.lt_irrefl n)

theorem runLoop_of_firstStop (positive : 1 ≤ n) (active : m.isStopped = false)
    (stop : FirstStop breakpoints n m k) (free : m.Unfaulted k) :
    Machine.completed k m = k ∧ (m.steps k).state.fault? = none ∧
    runLoop breakpoints n 0 m #[] = ⟨m.steps k, (m.eventsOfSteps k).toArray, k,
      if Interrupts breakpoints n m k then .breakpoint else .over⟩ := by
  -- The loop goes on for all steps but the last, which completes and decides how the run ends.
  obtain ⟨j, rfl⟩ := Nat.exists_eq_add_one.mpr stop.positive
  have pass := stop.passes free
  obtain ⟨all, active'⟩ := pass.completed active
  obtain ⟨fault, raised, -⟩ | ⟨taken, calm⟩ := Machine.step_of_active active'
  · exact absurd raised (free j (Nat.lt_succ_self j) fault)
  have within := pass.lt positive
  obtain ⟨rest, rfl⟩ : ∃ rest, n = j + (rest + 1) := ⟨n - (j + 1), by omega⟩
  rw [← Machine.steps_succ_last] at calm
  have halted := Machine.isStopped_iff_of_calm calm
  have last : rest = 0 ∨ (m.steps (j + 1)).isStopped = true ∨
      ((m.steps (j + 1)).pc.toNat : Int) ∈ breakpoints := by
    obtain limited | stops := stop.stops
    · exact .inl (by omega)
    · exact .inr (stops.imp_left halted.mpr)
  have same : (rest ≠ 0 ∧ (m.steps (j + 1)).isStopped = false ∧
      ((m.steps (j + 1)).pc.toNat : Int) ∈ breakpoints) ↔
      Interrupts breakpoints (j + (rest + 1)) m (j + 1) := by
    rw [← Bool.not_eq_true, halted]
    exact and_congr (by omega) Iff.rfl
  rw [Machine.steps_succ_last] at last
  refine ⟨?_, calm, ?_⟩
  · rw [Machine.completed_succ_last, all, Machine.completed_of_ok taken]
    rfl
  · rw [pass.runLoop_eq active, runLoop_last taken pass.unbroken last,
      ← Machine.eventsOfSteps_succ_last, ← Machine.steps_succ_last]
    simp only [same]

theorem runLoop_of_firstFault (positive : 1 ≤ n) (active : m.isStopped = false)
    (ends : FirstFault breakpoints n m k fault) :
    runLoop breakpoints n 0 m #[] =
      ⟨m.steps (k + 1), (m.eventsOfSteps (k + 1)).toArray, k, .fault fault⟩ := by
  have within := ends.lt positive
  obtain ⟨rest, rfl⟩ : ∃ rest, n = k + (rest + 1) := ⟨n - (k + 1), by omega⟩
  rw [ends.runLoop_eq active, runLoop_raised ends.raised ends.unbroken,
    ← Machine.eventsOfSteps_succ_last, ← Machine.steps_succ_last]

theorem FirstFault.panics (ends : FirstFault breakpoints n m k fault)
    (active : m.isStopped = false) : (m.steps (k + 1)).state = .panicked fault := by
  obtain ⟨-, active'⟩ := ends.completed active
  rw [Machine.steps_succ_last]
  obtain ⟨fault', raised, panicked⟩ | ⟨taken, -⟩ := Machine.step_of_active active'
  · rw [ends.raised] at raised
    rw [panicked, Except.error.inj raised]
  · rw [ends.raised] at taken
    cases taken

theorem notMem_of_mem_tail (passed : ∀ j, 1 ≤ j → j < k → ¬StopsAt breakpoints n m j)
    {e : UInt16 × Instruction} (later : e ∈ (executions (m.eventsOfSteps k)).tail) :
    (e.1.toNat : Int) ∉ breakpoints := by
  obtain ⟨j, some_steps, inside, same⟩ := Machine.exists_steps_of_mem_tail later
  rw [same]
  exact fun hit => passed j some_steps inside (.inr (.inr hit))

/-! ### Sessions -/

/-- What is said of a run that a breakpoint has stopped. -/
def breakpointText (pc : UInt16) : String := s!"\nBreakpoint hit at {addressHex pc.toNat}"

theorem second_append (start rest : String) (long : 1 < start.toList.length) :
    (start ++ rest).toList[1]? = start.toList[1]? := by
  rw [String.toList_append, List.getElem?_append_left long]

theorem breakpointText_ne_conclusion (pc : UInt16) (count : Nat) (m : Machine) :
    breakpointText pc ≠ conclusion (.ok count) m := by
  -- The texts differ in their second letters.
  intro same
  have letters := congrArg (fun text => text.toList[1]?) same
  unfold breakpointText conclusion haltText at letters
  dsimp only [toString] at letters
  rw [second_append _ _ (by decide)] at letters
  repeat' split at letters
  all_goals
    simp only [String.append_assoc] at letters
    rw [second_append _ _ (by decide)] at letters
    revert letters
    decide

/-- The line lets the machine run, for `n` steps at most. -/
def RunsFor (line : List Char) (n : Nat) : Prop :=
  ∃ verb argument, (verb = .run ∨ verb = .proceed) ∧ Line.parse line = .command verb argument ∧
    numberOr defaultLimit argument = .ok (n : Int)

section

variable [Heap] {s : Session} {line : List Char}

theorem react_run (files : Directory) (runs : RunsFor line n)
    (calm : s.machine.state.fault? = none) {r : RunResult}
    (loop : runLoop s.breakpoints n 0 s.machine.start.machine #[] = r) :
    s.react files line = ⟨{ s with machine := r.conclude.1 }, r.conclude.2, .ok false⟩ := by
  obtain ⟨verb, argument, rfl | rfl, typed, limited⟩ := runs
  all_goals
    have ran := run_calm limited calm
    rw [Int.toNat_natCast, loop] at ran
    exact react_command typed ran

theorem react_of_firstStop (files : Directory) (runs : RunsFor line n) (positive : 1 ≤ n)
    (calm : s.machine.state.fault? = none)
    (stop : FirstStop s.breakpoints n s.machine.start.machine k)
    (free : s.machine.start.machine.Unfaulted k) :
    let m := s.machine.start.machine
    let last := m.steps k
    let log := Entry.ofEvents (m.eventsOfSteps k)
    s.react files line =
      if Interrupts s.breakpoints n m k then
        ⟨{ s with machine := { last with state := .halted } },
          log ++ [.event (.halted last.pc .stopped), .line (breakpointText last.pc)], .ok false⟩
      else ⟨{ s with machine := last }, log ++ [.line (conclusion (.ok k) last)], .ok false⟩ := by
  intro m last log
  obtain ⟨-, calm', loop⟩ := runLoop_of_firstStop positive (Machine.isStopped_start calm) stop free
  rw [react_run files runs calm loop]
  by_cases hit : Interrupts s.breakpoints n m k
  · rw [if_pos hit, if_pos hit]
    unfold RunResult.conclude
    dsimp only
    rw [Machine.stop_calm calm', List.append_assoc]
    rfl
  · rw [if_neg hit, if_neg hit]
    rfl

theorem said_of_firstStop (files : Directory) (runs : RunsFor line n) (positive : 1 ≤ n)
    (calm : s.machine.state.fault? = none)
    (stop : FirstStop s.breakpoints n s.machine.start.machine k)
    (free : s.machine.start.machine.Unfaulted k) :
    let m := s.machine.start.machine
    let reaction := s.react files line
    executions (eventsIn reaction.transcript) = executions (m.eventsOfSteps k) ∧
    reaction.session.machine.count = (m.steps k).count ∧
    (breakpointText (m.steps k).pc ++ "\n" ∈ textsIn reaction.transcript ↔
      Interrupts s.breakpoints n m k) := by
  intro m reaction
  have reacts : reaction = _ := react_of_firstStop files runs positive calm stop free
  by_cases hit : Interrupts s.breakpoints n m k
  · rw [reacts, if_pos hit, eventsIn_append, textsIn_append, eventsIn_ofEvents, textsIn_ofEvents,
      executions_append]
    exact ⟨List.append_nil _, rfl, iff_of_true List.mem_cons_self hit⟩
  · rw [reacts, if_neg hit, eventsIn_ofEvents_line, textsIn_ofEvents_line, List.mem_singleton,
      String.append_left_inj]
    exact ⟨rfl, rfl, iff_of_false (breakpointText_ne_conclusion _ _ _) hit⟩

theorem react_of_firstFault (files : Directory) (runs : RunsFor line n) (positive : 1 ≤ n)
    (calm : s.machine.state.fault? = none)
    (ends : FirstFault s.breakpoints n s.machine.start.machine k fault) :
    let m := s.machine.start.machine
    s.react files line = ⟨{ s with machine := m.steps (k + 1) },
      Entry.ofEvents (m.eventsOfSteps (k + 1)) ++ [.line (faultText fault)], .ok false⟩ :=
  react_run files runs calm
    (runLoop_of_firstFault positive (Machine.isStopped_start calm) ends)

end

end Monitor.Session

end ChipEight
