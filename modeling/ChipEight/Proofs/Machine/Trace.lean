import ChipEight.Proofs.Machine.Stepping

/-!
# What a machine says of its work

The debugging messages of a machine that is let work name one instruction after the other, each as a
disassembly of the loaded memory gives it, and an error message tells of a step that fails
(`messages_describe_execution`). Below the program space only the host itself writes.
-/

namespace ChipEight

open Text

/-- The texts of the messages of one severity. -/
def messages (severity : Severity) (events : List Event) : List String :=
  (events.filter (·.severity = severity)).map Event.text

theorem messages_append (severity : Severity) (first second : List Event) :
    messages severity (first ++ second) = messages severity first ++ messages severity second := by
  rw [messages, List.filter_append, List.map_append]
  rfl

namespace Machine

variable {m m' : Machine} {moves : List Operation}

/-- Whether an operation lets the machine work or stops it, and puts nothing into it. -/
def Operation.drives : Operation → Bool
  | .start | .resume | .stop | .step | .run _ => true
  | .load _ | .writeBytes .. | .reset | .fetch => false

/-- An operation that drives the machine and is no run. -/
inductive Operation.Moves : Operation → Prop where
  | start : Moves .start
  | resume : Moves .resume
  | stop : Moves .stop
  | step : Moves .step

theorem moves_of_mem_unroll {driving : List Operation}
    (drives : ∀ operation ∈ driving, operation.drives) :
    ∀ move ∈ m.unroll driving, move.Moves := by
  intro move taken
  have single := ne_run_of_mem_unroll taken
  obtain rfl | mem := mem_of_mem_unroll taken
  · exact .step
  have drives := drives move mem
  cases move with
  | start => exact .start
  | resume => exact .resume
  | stop => exact .stop
  | step => exact .step
  | run limit => exact absurd rfl (single limit)
  | load | writeBytes | reset | fetch => cases drives

/-! ### Single operations -/

/-- From one machine to the other an instruction is counted and remembered that a disassembly of
`memory` finds at the program counter. -/
structure Executes (memory : Memory) (m m' : Machine) (text : String) : Prop where
  counted : m'.count = m.count + 1
  found : Disassembly.textAt memory.toArray m.pc.toNat = .ok text
  last : m'.last.map Instruction.text = some text

inductive Reports (m m' : Machine) : Operation → List String → Prop where
  | nothing {move : Operation} (uncounted : m'.count = m.count) : Reports m m' move []
  | instruction {text : String} (executes : Executes m.memory m m' text) :
      Reports m m' .step [s!"[EXECUTE] {addressHex m.pc.toNat}: {text}"]

theorem textAt_memory (whole : m.pc.toNat ≤ 0xFFE) :
    Disassembly.textAt m.memory.toArray m.pc.toNat = .ok (decode m.nextWord).text := by
  rw [Disassembly.textAt_memory m.memory (by omega), nextWord_eq (by omega) (by omega)]
  rfl

theorem reports_step (m : Machine) :
    m.Reports m.step.machine .step (messages .debug m.step.events) := by
  have stepped := m.stepped_step
  generalize m.step = outcome at stepped
  cases stepped with
  | stopped | short => exact .nothing rfl
  | faulted _ whole => exact .instruction ⟨rfl, textAt_memory whole, rfl⟩
  | completed _ whole effect =>
    obtain ⟨-, count, last⟩ := kept_of_effect effect
    have said : messages .debug (.executing m.pc (decode m.nextWord) ::
        if classify m.nextWord = .finish then [.halted m.pc .endOfProgram] else []) =
        [s!"[EXECUTE] {addressHex m.pc.toNat}: {(decode m.nextWord).text}"] := by
      split <;> rfl
    rw [said]
    exact .instruction ⟨count, textAt_memory whole, congrArg _ last⟩

/-- An operation that drives a machine without a step says nothing of its work. -/
theorem quiet_of_moves {move : Operation} (moves : move.Moves) (no_step : move ≠ .step) :
    (∃ state, m.perform move = { m with state }) ∧
      ∀ severity, severity ≠ .info → messages severity (m.eventsOf move) = [] := by
  have starting : ∀ severity, messages severity m.start.events = [] := by
    intro severity
    rw [events_start]
    rfl
  cases moves with
  | step => exact absurd rfl no_step
  | start | resume => exact ⟨m.start_machine, fun severity _ => starting severity⟩
  | stop =>
    refine ⟨m.stop_machine, fun severity no_info => ?_⟩
    show messages severity m.stop.events = []
    obtain calm | ⟨fault, panicked⟩ := calm_or_panicked m.state
    · rw [stop_calm calm]
      have other : Severity.info ≠ severity := Ne.symm no_info
      simp [messages, Event.severity, other]
    · rw [stop_panicked panicked]
      rfl

theorem memory_of_moves {move : Operation} (moves : move.Moves) :
    (m.perform move).memory = m.memory := by
  by_cases step : move = .step
  · subst step
    exact m.memory_step
  · obtain ⟨⟨state, same⟩, -⟩ := quiet_of_moves (m := m) moves step
    rw [same]

theorem reports_of_moves {move : Operation} (moves : move.Moves) :
    m.Reports (m.perform move) move (messages .debug (m.eventsOf move)) := by
  by_cases step : move = .step
  · subst step
    exact m.reports_step
  · obtain ⟨⟨state, same⟩, quiet⟩ := quiet_of_moves (m := m) moves step
    rw [quiet .debug Severity.noConfusion, same]
    exact .nothing rfl

theorem count_of_reports {move : Operation} {said : List String}
    (reports : m.Reports m' move said) :
    m'.count = m.count + said.length := by
  cases reports with
  | nothing uncounted => exact uncounted
  | instruction executes => exact executes.counted

/-- What ends the events of a step. -/
def complaint : Except Fault Bool → List Event
  | .error fault => [.panicked fault]
  | .ok _ => []

theorem complaint_step (m : Machine) : ∃ earlier,
    m.step.events = earlier ++ complaint m.step.result ∧ messages .error earlier = [] := by
  have stepped := m.stepped_step
  generalize m.step = outcome at stepped
  cases stepped with
  | stopped | short => exact ⟨[], rfl, rfl⟩
  | faulted => exact ⟨[_], rfl, rfl⟩
  | completed =>
    refine ⟨_, (List.append_nil _).symm, ?_⟩
    split <;> rfl

/-! ### Many operations -/

theorem memory_performFirst (all : ∀ move ∈ moves, move.Moves) (j : Nat) :
    (m.performFirst moves j).memory = m.memory := by
  apply performAll_preserves_of_mem (P := fun later => later.memory = m.memory) _ rfl
  intro before move taken same
  exact (memory_of_moves (all move (List.mem_of_mem_take taken))).trans same

theorem count_performAll (all : ∀ move ∈ moves, move.Moves) :
    (m.performAll moves).count = m.count + (messages .debug (m.eventsOfAll moves)).length := by
  induction moves generalizing m with
  | nil => rfl
  | cons move moves ih =>
    rw [List.forall_mem_cons] at all
    rw [performAll_cons, eventsOfAll_cons, messages_append, List.length_append, ih all.2,
      count_of_reports (reports_of_moves all.1), Nat.add_assoc]

/-- Each message is that of the step which counts it. -/
theorem exists_step_of_message (all : ∀ move ∈ moves, move.Moves) {k : Nat} {message : String}
    (said : (messages .debug (m.eventsOfAll moves))[k]? = some message) :
    ∃ j text, moves[j]? = some .step ∧ (m.performFirst moves j).count = m.count + k ∧
      Executes m.memory (m.performFirst moves j) (m.performFirst moves (j + 1)) text ∧
      message = s!"[EXECUTE] {addressHex (m.performFirst moves j).pc.toNat}: {text}" := by
  induction moves generalizing m k with
  | nil => cases said
  | cons move moves ih =>
    rw [List.forall_mem_cons] at all
    have reports := reports_of_moves (m := m) all.1
    have counted := count_of_reports reports
    rw [eventsOfAll_cons, messages_append] at said
    generalize messages .debug (m.eventsOf move) = first at reports counted said
    -- Past the head the induction finds the step, at a machine with the same memory.
    have later : first.length ≤ k → ∃ j text, (move :: moves)[j]? = some .step ∧
        (m.performFirst (move :: moves) j).count = m.count + k ∧
        Executes m.memory (m.performFirst (move :: moves) j)
          (m.performFirst (move :: moves) (j + 1)) text ∧
        message =
          s!"[EXECUTE] {addressHex (m.performFirst (move :: moves) j).pc.toNat}: {text}" := by
      intro past
      rw [List.getElem?_append_right past] at said
      obtain ⟨j, text, step, count, executes, same⟩ := ih all.2 said
      rw [memory_of_moves all.1] at executes
      refine ⟨j + 1, text, step, ?_, executes, same⟩
      show ((m.perform move).performFirst moves j).count = _
      omega
    cases reports with
    | nothing => exact later (Nat.zero_le k)
    | instruction executes =>
      cases k with
      | zero =>
        rw [List.getElem?_append_left Nat.one_pos] at said
        exact ⟨0, _, rfl, rfl, executes, (Option.some.inj said).symm⟩
      | succ k => exact later (Nat.succ_le_succ (Nat.zero_le k))

/-! ### The bytes below the program space -/

theorem read_performAll_low {operations : List Operation}
    (unwritten : ∀ a bytes, .writeBytes a bytes ∉ operations) {a : Nat} (low : a < programStart)
    (initial : m.memory.read a = Memory.initial.read a) :
    (m.performAll operations).memory.read a = Memory.initial.read a := by
  apply performAll_preserves_of_mem (P := fun m => m.memory.read a = Memory.initial.read a) _ initial
  intro m operation taken initial
  cases operation with
  | load image => exact (m.memory.read_load_of_lt image low).trans initial
  | writeBytes b bytes => exact absurd taken (unwritten b bytes)
  | reset => rfl
  | fetch =>
    obtain ⟨pc, count, same⟩ := m.perform_fetch
    rw [same]
    exact initial
  | start | resume =>
    obtain ⟨state, same⟩ := m.start_machine
    rw [perform, same]
    exact initial
  | stop =>
    obtain ⟨state, same⟩ := m.stop_machine
    rw [perform, same]
    exact initial
  | step =>
    rw [perform_step, memory_step]
    exact initial
  | run limit =>
    apply run_preserves (P := fun m => m.memory.read a = Memory.initial.read a) _ initial
    intro m initial
    rw [memory_step]
    exact initial

/-! ### Driven machines -/

/-- However a machine is driven, its memory stays as it is, and each message is that of the step that
counts it: it names the program counter before the step and the instruction that a disassembly of the
memory finds there. An error message ends the events of a step that fails, and there is no other. If
the host has written nothing but images, the memory below the program space is as at power-on. -/
theorem messages_describe_execution (m : Machine) {driving : List Operation}
    (drives : ∀ operation ∈ driving, operation.drives) :
    let moves := m.unroll driving
    let after := m.performFirst moves
    let said := messages .debug (m.eventsOfAll driving)
    after moves.length = m.performAll driving ∧
    m.eventsOfAll driving = (moves.zipIdx.flatMap fun (move, j) => (after j).eventsOf move) ∧
    (∀ j, (after j).memory = m.memory) ∧
    (m.performAll driving).count = m.count + said.length ∧
    (∀ k message, said[k]? = some message → ∃ j text, moves[j]? = some .step ∧
      (after j).count = m.count + k ∧ Executes m.memory (after j) (after (j + 1)) text ∧
      message = s!"[EXECUTE] {addressHex (after j).pc.toNat}: {text}") ∧
    (∀ j move, moves[j]? = some move →
      (after (j + 1)).count =
        (after j).count + (messages .debug ((after j).eventsOf move)).length ∧
      (move = .step → ∃ earlier, messages .error earlier = [] ∧
        (after j).step.events = earlier ++ complaint (after j).step.result) ∧
      (move ≠ .step → messages .error ((after j).eventsOf move) = [])) ∧
    ∀ seed wrap history, m = (powerOn seed wrap).performAll history →
      (∀ a bytes, .writeBytes a bytes ∉ history) → ∀ j,
        (∀ a : Nat, a < programStart → (after j).memory.read a = Memory.initial.read a) ∧
        (after j).memory.readBytes glyphStart glyphs.size = glyphs.toList := by
  intro moves after said
  have all := moves_of_mem_unroll (m := m) drives
  have same_events : m.eventsOfAll moves = m.eventsOfAll driving := m.eventsOfAll_unroll driving
  have memory := memory_performFirst (m := m) all
  refine ⟨m.performFirst_unroll driving, ?_, memory, ?_, ?_, ?_, ?_⟩
  · rw [← same_events, eventsOfAll_eq_flatMap]
  · rw [← performAll_unroll, count_performAll all, same_events]
  · intro k message message_said
    apply exists_step_of_message all
    rw [same_events]
    exact message_said
  · intro j move taken
    obtain ⟨inside, rfl⟩ := List.getElem?_eq_some_iff.mp taken
    have next : after (j + 1) = (after j).perform moves[j] := performFirst_succ m inside
    have drive := all _ (List.getElem_mem inside)
    refine ⟨?_, fun _ => ?_, fun no_step => ?_⟩
    · rw [next]
      exact count_of_reports (reports_of_moves drive)
    · obtain ⟨earlier, events, silent⟩ := (after j).complaint_step
      exact ⟨earlier, silent, events⟩
    · exact (quiet_of_moves drive no_step).2 .error Severity.noConfusion
  · rintro seed wrap history rfl unwritten j
    have low : ∀ a : Nat, a < programStart →
        (after j).memory.read a = Memory.initial.read a := by
      intro a low
      rw [memory j]
      exact read_performAll_low unwritten low rfl
    exact ⟨low, Memory.readBytes_glyphs low⟩

theorem messages_lostReturn :
    messages .debug (lostReturn.eventsOfAll [.step]) = ["[EXECUTE] 0x200: RET"] := by
  have word : lostReturn.nextWord = 0x00EE := nextWord_load #[0x00, 0xEE] rfl (by decide) (by decide)
  have whole : lostReturn.pc.toNat ≤ 0xFFE := by decide
  have events : lostReturn.step.events =
      [.executing 0x200 (decode 0x00EE), .panicked ⟨0x200, .stackUnderflow⟩] := by
    rw [step_whole rfl whole, (executeGuarded_error_iff whole).mpr due_lostReturn, word]
    rfl
  rw [eventsOfAll_cons, eventsOf_step, events]
  decide +kernel

/-- The instruction is counted and named before it fails. -/
theorem messages_describe_execution_of_lost_return :
    (∀ operation ∈ [Operation.step], operation.drives) ∧
    (lostReturn.performAll [.step]).count = 1 ∧
    (∃ text, Executes lostReturn.memory lostReturn (lostReturn.performAll [.step]) text ∧
      "[EXECUTE] 0x200: RET" = s!"[EXECUTE] {addressHex 0x200}: {text}") ∧
    (lostReturn.performAll [.step]).memory.readBytes glyphStart glyphs.size = glyphs.toList := by
  have drives : ∀ operation ∈ [Operation.step], operation.drives := by decide
  obtain ⟨-, -, -, count, message, -, low⟩ := messages_describe_execution lostReturn drives
  have loaded : ∀ a bytes, Operation.writeBytes a bytes ∉ [.load #[0x00, 0xEE]] := by simp
  rw [messages_lostReturn] at count message
  refine ⟨drives, count, ?_, (low 0 false [.load #[0x00, 0xEE]] rfl loaded 1).2⟩
  obtain ⟨j, text, step, -, executes, same⟩ := message 0 _ rfl
  obtain ⟨inside, -⟩ := List.getElem?_eq_some_iff.mp step
  obtain rfl : j = 0 := Nat.lt_one_iff.mp inside
  exact ⟨text, executes, same⟩

end Machine

end ChipEight
