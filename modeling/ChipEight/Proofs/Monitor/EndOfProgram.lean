import ChipEight.Proofs.Machine.Trace
import ChipEight.Proofs.Monitor.Drivers
import ChipEight.Proofs.Monitor.Inspection

/-!
# The end of a program

A machine that has executed the word that ends its program can be started, stopped, stepped and run
again, but it only comes back to that word (`rests_step`). So nothing but its run state and its count
of instructions ever changes (`program_end_is_fixed`).
-/

namespace ChipEight

open Text

namespace Machine

variable {m m' m'' : Machine}

/-- The next word ends the program, as the last one did. -/
structure AtEnd (m : Machine) : Prop where
  whole : m.pc.toNat ≤ 0xFFE
  finish : classify m.nextWord = .finish
  last : m.last = some .finish
  calm : m.state.fault? = none

/-- Nothing becomes of a machine but that its run state changes and its count rises. -/
structure Rests (m m' : Machine) : Prop where
  same : m' = { m with state := m'.state, count := m'.count }
  counted : m.count ≤ m'.count
  calm : m'.state.fault? = none

theorem rests_refl (calm : m.state.fault? = none) : m.Rests m := ⟨rfl, Nat.le_refl _, calm⟩

theorem Rests.trans (first : m.Rests m') (second : m'.Rests m'') : m.Rests m'' := by
  refine ⟨?_, Nat.le_trans first.counted second.counted, second.calm⟩
  have same := second.same
  rw [first.same] at same
  exact same

theorem Rests.pc (rests : m.Rests m') : m'.pc = m.pc := by
  rw [rests.same]

/-- The program counter, the memory and the last instruction tell whether a machine is at the end. -/
theorem AtEnd.of_rests (there : m.AtEnd) (rests : m.Rests m') : m'.AtEnd := by
  obtain ⟨whole, finish, last, -⟩ := there
  rw [rests.same]
  exact ⟨whole, finish, last, rests.calm⟩

/-! ### One operation -/

theorem step_of_finish (active : m.isStopped = false) (free : m.dueFault? = none)
    (finish : classify m.nextWord = .finish) :
    m.step.machine = { m.noted with state := .halted } :=
  eq_of_effect_finish (step_effect active free) finish

theorem atEnd_of_completes (completes : m.Completes .finish) : m.step.machine.AtEnd := by
  obtain ⟨done, finish⟩ := completes
  obtain ⟨active, free⟩ := free_of_step_ok done
  have whole := (noFault_of_dueFault? free).whole
  rw [step_of_finish active free finish]
  exact ⟨whole, finish, congrArg some ((decode_eq_finish_iff _).mpr finish), rfl⟩

theorem AtEnd.dueFault? (there : m.AtEnd) : m.dueFault? = none := by
  have left : ¬0xFFE < m.pc.toNat := Nat.not_lt.mpr there.whole
  unfold Machine.dueFault?
  simp [left, there.finish, Op.hasDestination]

theorem rests_step (there : m.AtEnd) : m.Rests m.step.machine := by
  cases stopped : m.isStopped with
  | true =>
    rw [step_stopped stopped]
    exact rests_refl there.calm
  | false =>
    -- The instruction that the step remembers is the one that was remembered before.
    have decoded : some (decode m.nextWord) = m.last := by
      rw [there.last, (decode_eq_finish_iff _).mpr there.finish]
    rw [step_of_finish stopped there.dueFault? there.finish, noted, decoded]
    exact ⟨rfl, Nat.le_succ _, rfl⟩

theorem rests_start (there : m.AtEnd) : m.Rests m.start.machine := by
  rw [start_calm there.calm]
  exact ⟨rfl, Nat.le_refl _, rfl⟩

theorem rests_stop (there : m.AtEnd) : m.Rests m.stop.machine := by
  rw [stop_calm there.calm]
  exact ⟨rfl, Nat.le_refl _, rfl⟩

theorem rests_steps (there : m.AtEnd) (n : Nat) : m.Rests (m.steps n) := by
  induction n generalizing m with
  | zero => exact rests_refl there.calm
  | succ n ih =>
    have first := rests_step there
    exact first.trans (ih (there.of_rests first))

theorem rests_run (there : m.AtEnd) (limit : Nat) : m.Rests (m.run limit).machine := by
  rw [run_eq there.calm]
  exact rests_steps there limit

theorem rests_perform {operation : Operation} (drives : operation.drives) (there : m.AtEnd) :
    m.Rests (m.perform operation) := by
  cases operation with
  | start | resume => exact rests_start there
  | stop => exact rests_stop there
  | step => exact rests_step there
  | run limit => exact rests_run there limit.toNat
  | load | writeBytes | reset | fetch => cases drives

end Machine

namespace Monitor

variable {m : Machine} {s : Session}

namespace Session

/-! ### One line -/

theorem rests_wake (there : m.AtEnd) : m.Rests (wake m) := by
  unfold wake
  split
  · exact Machine.rests_start there
  · exact Machine.rests_refl there.calm

theorem rests_stepLoop (there : m.AtEnd) (count : Nat) :
    m.Rests (stepLoop count (wake m) #[]).1 := by
  cases count with
  | zero => exact rests_wake there
  | succ count =>
    obtain ⟨machine, -⟩ := stepLoop_resumed m (Nat.succ_pos count)
    have started := Machine.rests_start there
    rw [machine]
    exact started.trans (Machine.rests_run (there.of_rests started) _)

theorem rests_conclude {breakpoints : List Int} {limit : Nat} {r : RunResult} (there : m.AtEnd)
    (runs : Session.Runs breakpoints m limit 0 [] r) : m.Rests r.conclude.1 := by
  cases runs with
  | @breakpoint k =>
    have steps := Machine.rests_steps there k
    exact steps.trans (Machine.rests_stop (there.of_rests steps))
  | fault | ended => exact Machine.rests_steps there limit

theorem rests_after_run (there : s.machine.AtEnd) (argument : List Char) :
    s.machine.Rests (s.after (s.run argument)).machine := by
  have started := Machine.rests_start there
  cases limited : numberOr defaultLimit argument with
  | error error =>
    rw [Session.run, limited]
    exact Machine.rests_refl there.calm
  | ok limit =>
    have active := Machine.isStopped_start there.calm
    have runs := runs_runLoop s.breakpoints active limit.toNat 0 #[]
    rw [run_calm limited there.calm]
    exact started.trans (rests_conclude (there.of_rests started) runs)

theorem rests_after_step (there : s.machine.AtEnd) (argument : List Char) :
    s.machine.Rests (s.after (s.step argument)).machine := by
  cases counted : numberOr 1 argument with
  | error error =>
    rw [Session.step, counted]
    exact Machine.rests_refl there.calm
  | ok count =>
    rw [step_eq counted]
    exact rests_stepLoop there count.toNat

theorem rests_of_same_machine {s' : Session} (there : s.machine.AtEnd)
    (same : s'.machine = s.machine) : s.machine.Rests s'.machine := by
  rw [same]
  exact Machine.rests_refl there.calm

theorem machine_after_breakpoint (s : Session) (argument : List Char) :
    (s.after (s.breakpoint argument)).machine = s.machine := by
  unfold breakpoint
  split
  · rfl
  · exact after_bind (P := fun s' => s'.machine = s.machine) rfl fun _ => rfl

theorem machine_after_clearBreakpoint (s : Session) (argument : List Char) :
    (s.after (s.clearBreakpoint argument)).machine = s.machine := by
  unfold clearBreakpoint
  split
  · rfl
  · exact after_bind (P := fun s' => s'.machine = s.machine) rfl fun _ => rfl

end Session

/-- Whether a line puts neither a program nor pixels into the machine. -/
def Line.spares : Line → Bool
  | .empty | .unknown _ => true
  | .command verb _ =>
    match verb with
    | .load | .assemble | .reset | .framebuffer => false
    | _ => true

namespace Session

theorem rests_after_performLine [Heap] {line : Line} (spares : line.spares)
    (there : s.machine.AtEnd) (files : Directory) :
    s.machine.Rests (s.after (s.performLine files line)).machine := by
  cases line with
  | empty | unknown => exact Machine.rests_refl there.calm
  | command verb argument =>
    cases verb with
    | start => exact Machine.rests_start there
    | stop => exact Machine.rests_stop there
    | step => exact rests_after_step there argument
    | run | proceed => exact rests_after_run there argument
    | breakpoint => exact rests_of_same_machine there (machine_after_breakpoint s argument)
    | clearBreakpoint => exact rests_of_same_machine there (machine_after_clearBreakpoint s argument)
    | dump => exact rests_of_same_machine there (congrArg machine after_dump)
    | disassemble => exact rests_of_same_machine there (congrArg machine after_disassemble)
    | registers | stack | screen | status | help | quit | endOfInput =>
      exact Machine.rests_refl there.calm
    | load | assemble | reset | framebuffer => cases spares

/-! ### Many requests -/

end Session

/-- What a host may ask for: a call of the machine itself, or a line at the monitor. -/
inductive Request where
  | call (operation : Machine.Operation)
  | line (files : Directory) (typed : List Char)

def Request.spares : Request → Bool
  | .call operation => operation.drives
  | .line _ typed => (Line.parse typed).spares

namespace Session

section

variable [Heap]

def answer (s : Session) : Request → Session
  | .call operation => { s with machine := s.machine.perform operation }
  | .line files typed => (s.react files typed).session

def answerAll (s : Session) (requests : List Request) : Session := requests.foldl answer s

theorem rests_answer {request : Request} (spares : request.spares) (there : s.machine.AtEnd) :
    s.machine.Rests (s.answer request).machine := by
  cases request with
  | call operation => exact Machine.rests_perform spares there
  | line files typed =>
    rw [answer, session_react]
    exact rests_after_performLine spares there files

theorem rests_answerAll {requests : List Request} (spares : ∀ request ∈ requests, request.spares)
    (there : s.machine.AtEnd) : s.machine.Rests (s.answerAll requests).machine := by
  induction requests generalizing s with
  | nil => exact Machine.rests_refl there.calm
  | cons request requests ih =>
    rw [List.forall_mem_cons] at spares
    have first := rests_answer spares.1 there
    exact first.trans (ih spares.2 (there.of_rests first))

/-- After the word that ends its program a machine is where it was before, and stays there. Whatever
else is asked of it, by calls or at the monitor, as long as nothing is put into it, it does not panic
and nothing changes but its run state and its count of instructions. -/
theorem program_end_is_fixed {m : Machine} (ended : m.Completes .finish)
    (image : Option (Array UInt8)) (breakpoints : List Int) {requests : List Request}
    (spares : ∀ request ∈ requests, request.spares) :
    let halted := m.step.machine
    let final := (answerAll ⟨halted, image, breakpoints⟩ requests).machine
    (halted.state = .halted ∧ halted.pc = m.pc ∧ halted.last = some .finish) ∧
    final = { halted with state := final.state, count := final.count } ∧
    final.state.fault? = none ∧ halted.count ≤ final.count := by
  intro halted final
  obtain ⟨active, free⟩ := Machine.free_of_step_ok ended.1
  have stepped : halted = { m.noted with state := .halted } :=
    Machine.step_of_finish active free ended.2
  have atEnd : halted.AtEnd := Machine.atEnd_of_completes ended
  have rests : halted.Rests final := rests_answerAll (s := ⟨halted, image, breakpoints⟩) spares atEnd
  refine ⟨⟨?_, ?_, atEnd.last⟩, rests.same, rests.calm, rests.counted⟩
  · rw [stepped]
  · rw [stepped]
    rfl

end

/-- The last word of an empty memory. -/
def atLastWord : Machine := { Machine.powerOn 0 true with pc := 0xFFE }

theorem completes_atLastWord : atLastWord.Completes .finish := by
  have word : atLastWord.nextWord = 0x0000 := by
    rw [Machine.nextWord_eq (by decide) (by decide)]
    simp [atLastWord, Machine.powerOn, Memory.initial]
    decide
  have finish : classify atLastWord.nextWord = .finish := by
    rw [word]
    decide
  have free : atLastWord.dueFault? = none := by
    unfold Machine.dueFault?
    rw [word]
    decide
  exact Machine.completes_of_free rfl free finish

/-- The end is met again from the halted machine, on a breakpoint, and under limits that let no step
be taken. -/
def askedAtLastWord : List Request :=
  [.line .empty "step 3".toList, .call .start, .call (.run (-1)), .line .empty "bp 0xffe".toList,
    .line .empty "c 0".toList, .call .resume, .line .empty "run".toList, .call .step]

theorem program_end_is_fixed_at_last_word :
    let _ : Heap := .unlimited
    let halted := atLastWord.step.machine
    let final := (answerAll ⟨halted, none, []⟩ askedAtLastWord).machine
    (atLastWord.Completes .finish ∧ ∀ request ∈ askedAtLastWord, request.spares) ∧
    final = { halted with state := final.state, count := final.count } ∧
    final.state.fault? = none ∧ final.pc = 0xFFE := by
  intro _
  have spares : ∀ request ∈ askedAtLastWord, request.spares :=
    List.all_eq_true.mp (by decide +kernel)
  have fixed := program_end_is_fixed completes_atLastWord none [] spares
  -- The step stays closed, or the comparison of the machines would run it.
  generalize atLastWord.step.machine = ended at fixed ⊢
  intro halted final
  obtain ⟨⟨-, pc, -⟩, same, calm, counted⟩ := fixed
  have rests : halted.Rests final := ⟨same, counted, calm⟩
  exact ⟨⟨completes_atLastWord, spares⟩, same, calm, rests.pc.trans pc⟩

end Session

end Monitor

end ChipEight
