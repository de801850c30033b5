import ChipEight.Machine.Basic
import ChipEight.Proofs.Machine.Effect
import ChipEight.Proofs.Machine.History

/-!
# Calls and returns

The open return addresses of a machine are a list: a call adds to its end, a return takes from its
end, and nothing else touches it, whatever the slots above it still hold. So a return goes back to
the call that it closes (`performFirst_returns`).
-/

namespace ChipEight.Machine

variable {m : Machine}

/-- The next step executes `op` and does not fault. -/
def Completes (m : Machine) (op : Op) : Prop :=
  m.step.result = .ok true ∧ classify m.nextWord = op

/-- The addresses that the open calls return to, the call opened last at the end. -/
def returns (m : Machine) : List UInt16 := m.stack.toList

/-! ### Steps -/

theorem stack_jump {transfer : Transfer} {target : Nat} {next : Machine}
    (run : m.jump transfer target = .ok next) : next.stack = m.stack := by
  unfold jump at run
  rw [checkTarget_eq] at run
  split at run
  · cases run
    rfl
  · cases run

theorem stack_call {target : Address} {next : Machine} (run : m.call target = .ok next) :
    m.stack.push? m.pc = some next.stack := by
  unfold call at run
  split at run
  · cases run
  · split at run
    · cases run
    · cases run
      assumption

theorem stack_ret {next : Machine} (run : m.ret = .ok next) :
    m.stack.pop? = some (next.pc, next.stack) := by
  unfold ret at run
  split at run
  · cases run
  · cases run
    assumption

theorem stack_draw (m : Machine) (x y : Register) (height : Nibble) :
    (m.draw x y height).stack = m.stack := by
  unfold draw
  dsimp only
  split <;> rfl

theorem stack_execute {i : Instruction} {next : Machine} (run : execute i m = .ok next) :
    match i.op with
    | .call => m.stack.push? m.pc = some next.stack
    | .ret => m.stack.pop? = some (next.pc, next.stack)
    | _ => next.stack = m.stack := by
  cases i with
  | call target => exact stack_call run
  | ret => exact stack_ret run
  | jump target | jumpOffset target => exact stack_jump run
  | skipEqByte x byte | skipNeByte x byte | skipEqReg x y | skipNeReg x y =>
    cases run
    show (skipIf m _).stack = m.stack
    unfold skipIf
    split <;> rfl
  | draw x y height =>
    cases run
    exact stack_draw m x y height
  | unknown word => cases run
  | _ =>
    cases run
    rfl

theorem free_of_step_ok (done : m.step.result = .ok true) :
    m.isStopped = false ∧ m.dueFault? = none := by
  cases stopped : m.isStopped with
  | true =>
    rw [step_stopped stopped] at done
    cases done
  | false =>
    rw [step_result stopped] at done
    cases due : m.dueFault? with
    | none => exact ⟨rfl, rfl⟩
    | some cause =>
      rw [due] at done
      cases done

theorem stack_step (done : m.step.result = .ok true) :
    match classify m.nextWord with
    | .call => m.stack.push? (m.pc + 2) = some m.step.machine.stack
    | .ret => m.stack.pop? = some (m.step.machine.pc, m.step.machine.stack)
    | _ => m.step.machine.stack = m.stack := by
  obtain ⟨active, free⟩ := free_of_step_ok done
  have run := step_machine active free
  rw [executeGuarded_decode, if_neg (not_and.mpr (noFault_of_dueFault? free).kept)] at run
  have stack := stack_execute run
  rw [op_decode] at stack
  exact stack

theorem stack_step_of_not_ok (stuck : m.step.result ≠ .ok true) :
    m.step.machine.stack = m.stack :=
  step_kept_of_not_ok Machine.stack (fun _ _ _ _ _ => rfl) stuck

theorem returns_step_call (calls : m.Completes .call) :
    m.step.machine.returns = m.returns ++ [m.pc + 2] := by
  have stack := stack_step calls.1
  rw [calls.2] at stack
  exact CallStack.toList_push? stack

theorem returns_step_ret (ends : m.Completes .ret) :
    m.returns = m.step.machine.returns ++ [m.step.machine.pc] := by
  have stack := stack_step ends.1
  rw [ends.2] at stack
  exact CallStack.toList_pop? stack

theorem stack_step_other (not_call : ¬m.Completes .call) (not_ret : ¬m.Completes .ret) :
    m.step.machine.stack = m.stack := by
  by_cases done : m.step.result = .ok true
  · have stack := stack_step done
    have call : classify m.nextWord ≠ .call := fun op => not_call ⟨done, op⟩
    have ret : classify m.nextWord ≠ .ret := fun op => not_ret ⟨done, op⟩
    cases op : classify m.nextWord <;> simp_all only [ne_eq, not_true_eq_false]
  · exact stack_step_of_not_ok done

theorem stack_perform {operation : Operation} (no_step : operation ≠ .step)
    (no_run : ∀ limit, operation ≠ .run limit) (no_reset : operation ≠ .reset) :
    (m.perform operation).stack = m.stack := by
  obtain ⟨memory, pc, count, state, same⟩ := perform_frame m no_step no_run no_reset
  rw [same]

/-! ### Histories -/

/-- How an operation changes the open return addresses. -/
def UpdatesReturns (m : Machine) : Operation → Machine → Prop
  | .step, m' =>
    (m.Completes .call → m'.returns = m.returns ++ [m.pc + 2]) ∧
    (m.Completes .ret → m.returns = m'.returns ++ [m'.pc]) ∧
    (¬m.Completes .call → ¬m.Completes .ret → m'.returns = m.returns)
  | .reset, m' => m'.returns = []
  | _, m' => m'.returns = m.returns

theorem updatesReturns_perform (m : Machine) {operation : Operation}
    (single : ∀ limit, operation ≠ .run limit) :
    m.UpdatesReturns operation (m.perform operation) := by
  cases operation with
  | step =>
    exact ⟨returns_step_call, returns_step_ret, fun not_call not_ret =>
      congrArg CallStack.toList (stack_step_other not_call not_ret)⟩
  | run limit => exact absurd rfl (single limit)
  | reset => exact CallStack.toList_empty
  | _ => exact congrArg CallStack.toList (stack_perform (by simp) single (by simp))

theorem length_returns (m : Machine) : m.returns.length = m.stack.depth := m.stack.length_toList

/-- Return addresses stay at the bottom while the depth is not below their number. -/
theorem prefix_of_updatesReturns {m' : Machine} {operation : Operation} {bottom : List UInt16}
    (updates : m.UpdatesReturns operation m') (below : bottom <+: m.returns)
    (above : bottom.length ≤ m'.stack.depth) : bottom <+: m'.returns := by
  rw [← length_returns] at above
  cases operation with
  | step =>
    obtain ⟨call, ret, other⟩ := updates
    by_cases calls : m.Completes .call
    · rw [call calls]
      exact below.trans (List.prefix_append _ _)
    · by_cases ends : m.Completes .ret
      · have rest : m'.returns <+: m.returns := ⟨_, (ret ends).symm⟩
        exact List.prefix_of_prefix_length_le below rest above
      · rw [other calls ends]
        exact below
  | reset =>
    have empty : m'.returns = [] := updates
    rw [empty] at above
    have none : bottom = [] := List.length_eq_zero_iff.mp (Nat.le_zero.mp above)
    exact none ▸ List.nil_prefix
  | _ =>
    have same : m'.returns = m.returns := updates
    rw [same]
    exact below

variable {moves : List Operation}

theorem prefix_performFirst (single : ∀ move ∈ moves, ∀ limit, move ≠ .run limit)
    {bottom : List UInt16} {i j : Nat} (order : i ≤ j) (inside : j ≤ moves.length)
    (below : bottom <+: (m.performFirst moves i).returns)
    (above : ∀ k, i < k → k ≤ j → bottom.length ≤ (m.performFirst moves k).stack.depth) :
    bottom <+: (m.performFirst moves j).returns := by
  induction j with
  | zero =>
    obtain rfl : i = 0 := Nat.le_zero.mp order
    exact below
  | succ j ih =>
    rcases Nat.eq_or_lt_of_le order with rfl | before
    · exact below
    have kept := ih (Nat.le_of_lt_succ before) (by omega) fun k after until_j =>
      above k after (by omega)
    have next := updatesReturns_perform (m.performFirst moves j)
      (single _ (List.getElem_mem inside))
    rw [← performFirst_succ] at next
    exact prefix_of_updatesReturns next kept (above _ before (Nat.le_refl _))

/-- A return that brings the depth back to that before a call, for the first time since, goes on
behind that call. -/
theorem performFirst_returns (single : ∀ move ∈ moves, ∀ limit, move ≠ .run limit) {i j : Nat}
    (order : i < j) (inside : j < moves.length)
    (call : moves[i] = .step ∧ (m.performFirst moves i).Completes .call)
    (ret : moves[j] = .step ∧ (m.performFirst moves j).Completes .ret)
    (back : (m.performFirst moves (j + 1)).stack.depth = (m.performFirst moves i).stack.depth)
    (above : ∀ k, i < k → k ≤ j →
      (m.performFirst moves i).stack.depth < (m.performFirst moves k).stack.depth) :
    (m.performFirst moves (j + 1)).pc = (m.performFirst moves i).pc + 2 := by
  have called := returns_step_call call.2
  rw [← perform_step, ← call.1, ← performFirst_succ m (by omega)] at called
  have ended := returns_step_ret ret.2
  rw [← perform_step, ← ret.1, ← performFirst_succ m inside] at ended
  -- The return address of the call stays where it is until the last return takes it away.
  have kept : (m.performFirst moves (i + 1)).returns <+: (m.performFirst moves j).returns := by
    refine prefix_performFirst single order (Nat.le_of_lt inside) List.prefix_rfl ?_
    intro k after until_j
    have deeper := above k (by omega) until_j
    rw [called, List.length_append, length_returns]
    exact deeper
  rw [called, ended] at kept
  have lengths : ((m.performFirst moves i).returns ++ [(m.performFirst moves i).pc + 2]).length =
      ((m.performFirst moves (j + 1)).returns ++ [(m.performFirst moves (j + 1)).pc]).length := by
    simp only [List.length_append, length_returns, back, List.length_singleton]
  have same := kept.eq_of_length lengths
  exact (List.singleton_inj.mp (List.append_inj_right' same rfl)).symm

theorem toNat_pc_of_completes {op : Op} (completes : m.Completes op) :
    (m.pc + 2).toNat = m.pc.toNat + 2 :=
  pc_fetched (noFault_of_dueFault? (free_of_step_ok completes.1).2).whole

/-! ### Slots and reports -/

theorem slot_of_returns (m : Machine) {k : Nat} (opened : k < m.stack.depth) :
    m.stack.slots[k]? = m.returns[k]? := by
  have inside : k < stackDepth := Nat.lt_of_lt_of_le opened m.stack.depth_le
  unfold returns CallStack.toList
  rw [List.getElem?_take_of_lt opened, Vector.getElem?_toList]

theorem zipIdx_eq_map_range (calls : List UInt16) :
    calls.zipIdx = (List.range calls.length).map fun k => (calls.getD k 0, k) := by
  apply List.ext_getElem
  · simp
  · intro k inside _
    rw [List.length_zipIdx] at inside
    simp [inside]

theorem stackReport_eq (m : Machine) :
    m.stackReport = if m.returns = [] then "  (empty)" else "\n".intercalate
      ((List.range m.stack.depth).reverse.map fun k => stackLine (m.returns.getD k 0, k)) := by
  unfold stackReport
  split
  · rename_i empty
    have none_open : m.returns = [] := empty
    rw [if_pos none_open]
  · rename_i opened
    have shown : m.returns ≠ [] := opened
    rw [if_neg shown, ← length_returns]
    show "\n".intercalate (m.returns.zipIdx.reverse.map stackLine) = _
    rw [zipIdx_eq_map_range, ← List.map_reverse, List.map_map]
    rfl

theorem step_of_execute {w : UInt16} {next : Machine} (active : m.isStopped = false)
    (whole : m.pc.toNat ≤ 0xFFE) (word : m.nextWord = w)
    (run : executeGuarded (decode w) m.fetched = .ok next) :
    m.Completes (classify w) ∧ m.step.machine = next := by
  rw [Completes, step_whole active whole, word, run]
  exact ⟨⟨rfl, rfl⟩, rfl⟩

/-- `CALL 0x204`, a word that is not reached, then `CALL 0x208`, `RET` and `RET`. -/
def nestedCalls : Array UInt8 := #[0x22, 0x04, 0x00, 0x00, 0x22, 0x08, 0x00, 0xEE, 0x00, 0xEE]

def outside : Machine := (powerOn 0 false).perform (.load nestedCalls)

def inOuter : Machine :=
  { outside.fetched with
    pc := 0x204, stack := ⟨outside.stack.slots.set 0 0x202, 1, by decide⟩ }

def inInner : Machine :=
  { inOuter.fetched with
    pc := 0x208, stack := ⟨inOuter.stack.slots.set 1 0x206, 2, by decide⟩ }

def backInOuter : Machine :=
  { inInner.fetched with pc := 0x206, stack := ⟨inInner.stack.slots, 1, by decide⟩ }

def backOutside : Machine :=
  { backInOuter.fetched with pc := 0x202, stack := ⟨backInOuter.stack.slots, 0, by decide⟩ }

theorem step_outside : outside.Completes .call ∧ outside.step.machine = inOuter :=
  step_of_execute (w := 0x2204) rfl (by decide)
    (nextWord_load nestedCalls rfl (by decide) (by decide)) rfl

theorem step_inOuter : inOuter.Completes .call ∧ inOuter.step.machine = inInner :=
  step_of_execute (w := 0x2208) rfl (by decide)
    (nextWord_load nestedCalls rfl (by decide) (by decide)) rfl

theorem step_inInner : inInner.Completes .ret ∧ inInner.step.machine = backInOuter :=
  step_of_execute (w := 0x00EE) rfl (by decide)
    (nextWord_load nestedCalls rfl (by decide) (by decide)) rfl

theorem step_backInOuter : backInOuter.Completes .ret ∧ backInOuter.step.machine = backOutside :=
  step_of_execute (w := 0x00EE) rfl (by decide)
    (nextWord_load nestedCalls rfl (by decide) (by decide)) rfl

def nestedMoves : List Operation := [.load nestedCalls, .step, .step, .step, .step]

theorem performFirst_step {moves : List Operation} {k : Nat} {here next : Machine}
    (taken : moves[k]? = some .step) (before : m.performFirst moves k = here)
    (stepped : here.step.machine = next) : m.performFirst moves (k + 1) = next := by
  obtain ⟨inside, step⟩ := List.getElem?_eq_some_iff.mp taken
  rw [performFirst_succ m inside, step, before, perform_step, stepped]

end ChipEight.Machine
