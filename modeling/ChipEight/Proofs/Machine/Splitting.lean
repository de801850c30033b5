import ChipEight.Proofs.Machine.Stepping

/-!
# Runs cut in two

A run may be cut anywhere: its limit is all that the two parts share out (`run_splits`). Nothing
happens to a machine that a step has left stopped, so it does not matter in which part that was.
-/

namespace ChipEight.Machine

variable {m : Machine}

/-! ### What a run counts -/

/-- The instructions that were counted though they did not complete. -/
def unfinished : Option Fault → Nat
  | some fault => if fault.cause = .fetchPastEnd then 0 else 1
  | none => 0

theorem count_of_step_error {fault : Fault} (raised : m.step.result = .error fault) :
    m.step.machine.count = m.count + unfinished (some fault) := by
  obtain ⟨active, cause, due, rfl⟩ := due_of_step_error raised
  by_cases short : 0xFFE < m.pc.toNat
  · obtain rfl := Option.some.inj (due.symm.trans (dueFault?_eq_fetchPastEnd.mpr short))
    rw [step_short active short]
    rfl
  · have fetched : cause ≠ .fetchPastEnd := by
      rintro rfl
      exact short (dueFault?_eq_fetchPastEnd.mp due)
    rw [step_machine_of_due active (Nat.not_lt.mp short) due, unfinished, if_neg fetched]
    rfl

theorem count_of_step_ok (done : m.step.result = .ok true) :
    m.step.machine.count = m.count + 1 := by
  obtain ⟨active, free⟩ := free_of_step_ok done
  exact (kept_of_effect (step_effect active free)).2.1

/-- The count tells the instructions that completed and the one at fault, if it was fetched. -/
theorem count_steps_of_calm (calm : m.state.fault? = none) (n : Nat) :
    (m.steps n).count = m.count + completed n m + unfinished (m.steps n).state.fault? := by
  induction n generalizing m with
  | zero =>
    have no_fault : (m.steps 0).state.fault? = none := calm
    rw [no_fault]
    rfl
  | succ n ih =>
    cases stopped : m.isStopped with
    | true =>
      obtain ⟨machine, -, none_done⟩ := steps_stopped stopped (n + 1)
      rw [machine, none_done, calm]
      rfl
    | false =>
      obtain ⟨fault, raised, panicked⟩ | ⟨done, next⟩ := step_of_active stopped
      · have stuck : m.step.result ≠ .ok true := by simp [raised]
        rw [(steps_of_not_ok stuck n).1, completed_of_not_ok stuck, count_of_step_error raised,
          panicked]
        rfl
      · rw [steps_succ, completed_of_ok done, ih next, count_of_step_ok done]
        omega

theorem count_run (m : Machine) (n : Nat) :
    (m.run n).machine.count = m.count + match (m.run n).result with
      | .ok count => count
      | .error fault => completed n m + if fault.cause = .fetchPastEnd then 0 else 1 := by
  obtain calm | ⟨fault, panicked⟩ := calm_or_panicked m.state
  · have counted := count_steps_of_calm calm n
    rw [run_eq calm]
    cases after : (m.steps n).state.fault? with
    | none =>
      rw [resultOf_calm after, counted, after]
      rfl
    | some fault =>
      rw [resultOf_panicked after, counted, after]
      exact Nat.add_assoc ..
  · rw [run_stopped (isStopped_panicked panicked)]
    rfl

/-! ### Cuts -/

theorem resultOf_add (m : Machine) (a b : Nat) :
    m.resultOf (a + b) = (m.resultOf b).map (a + ·) := by
  unfold resultOf
  cases m.state.fault? <;> rfl

/-- The second part goes on counting from zero, and takes no step if the first one fails. -/
theorem run_add (m : Machine) (a b : Nat) :
    let first := m.run a
    let second := first.machine.run b
    m.run (a + b) = ⟨first.result.bind fun j => second.result.map (j + ·), second.machine,
      first.events ++ second.events⟩ := by
  dsimp only
  obtain calm | ⟨fault, panicked⟩ := calm_or_panicked m.state
  · rw [run_eq calm, run_eq calm, steps_add, eventsOfSteps_add, completed_add, resultOf_add]
    obtain calm' | ⟨fault, panicked⟩ := calm_or_panicked (m.steps a).state
    · rw [resultOf_calm calm', run_eq calm']
      rfl
    · -- The fault of the first part is what the whole run fails with.
      have stopped := isStopped_panicked panicked
      obtain ⟨machine, silent, -⟩ := steps_stopped stopped b
      have failed : (m.steps a).state.fault? = some fault := congrArg RunState.fault? panicked
      rw [run_stopped stopped, machine, silent, resultOf_panicked failed, resultOf_panicked failed]
      rfl
  · have stopped := isStopped_panicked panicked
    rw [run_stopped stopped, run_stopped stopped, run_stopped stopped]
    rfl

theorem isStopped_of_run_error {n : Nat} {fault : Fault}
    (failed : (m.run n).result = .error fault) : (m.run n).machine.isStopped = true := by
  obtain calm | ⟨_, panicked⟩ := calm_or_panicked m.state
  · rw [run_eq calm] at failed ⊢
    obtain calm' | ⟨_, panicked⟩ := calm_or_panicked (m.steps n).state
    · rw [resultOf_calm calm'] at failed
      cases failed
    · exact isStopped_panicked panicked
  · rw [run_stopped (isStopped_panicked panicked)] at failed
    cases failed

theorem run_add_of_error {a : Nat} {fault : Fault} (failed : (m.run a).result = .error fault)
    (b : Nat) : m.run (a + b) = m.run a := by
  have stopped := isStopped_of_run_error failed
  rw [run_add, run_stopped stopped]
  generalize m.run a = first at failed
  obtain ⟨_, machine, events⟩ := first
  obtain rfl : _ = Except.error fault := failed
  rw [List.append_nil]
  rfl

/-- A run for `a + b` steps is one for `a` and then one for `b` of them: it leaves the same machine,
tells the host the same and counts what they count together, and it fails where one of them fails.
What a run counts is what the machine counts, which counts the instruction at fault too if its word
was fetched. -/
theorem run_splits (m : Machine) (a b : Nat) :
    let first := m.run a
    let second := first.machine.run b
    let whole := m.run (a + b)
    whole.machine = second.machine ∧
    whole.events = first.events ++ second.events ∧
    (whole.result = first.result.bind fun j => second.result.map (j + ·)) ∧
    (∀ fault, first.result = .error fault → whole = first) ∧
    ∀ n, (m.run n).machine.count = m.count + match (m.run n).result with
      | .ok count => count
      | .error fault => completed n m + if fault.cause = .fetchPastEnd then 0 else 1 := by
  intro first second whole
  have cut : whole = _ := m.run_add a b
  refine ⟨by rw [cut], by rw [cut], by rw [cut], ?_, m.count_run⟩
  intro fault failed
  exact run_add_of_error failed b

/-- The instruction at fault is counted, and a longer run comes to the same. -/
theorem run_splits_on_lost_return :
    (lostReturn.run 1).result = .error ⟨0x200, .stackUnderflow⟩ ∧
    lostReturn.run (1 + 6) = lostReturn.run 1 ∧
    (lostReturn.run 1).machine.count = 1 := by
  obtain ⟨failed, none_done⟩ := run_of_due (m := lostReturn) rfl due_lostReturn 0
  obtain ⟨-, -, -, same, counted⟩ := run_splits lostReturn 1 6
  refine ⟨failed, same _ failed, ?_⟩
  rw [counted 1, failed, none_done]
  rfl

end ChipEight.Machine
