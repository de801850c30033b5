import ChipEight.Proofs.Monitor.Command
import ChipEight.Proofs.Monitor.Drivers
import ChipEight.Proofs.Monitor.Reload

/-!
# Commands in place

A line that is carried out write by write comes to its reaction (`run_ofLine`): whatever can be
raised is raised before the first write or caught. So a line that raises something has changed
nothing (`raising_line_changes_nothing`).
-/

namespace ChipEight.Monitor

open Text

namespace Command

variable {α ε κ : Type}

/-! ### What a command comes to -/

section

variable {s : Session} {said : List Entry} {m : Machine} {files : Directory} {argument : List Char}

/-- What carrying out a command comes to that has an effect and gives `a`. -/
def ofEffect (a : α) (s : Session) (said : List Entry) : Effect → EStateM.Result Raised Console α
  | .ok (next, more) => .ok a ⟨next, said ++ more⟩
  | .error error => .error (.ofError error) ⟨s, said⟩

theorem ofEffect_append {a : α} (next : Session) (first second : List Entry) :
    .ok a ⟨next, said ++ first ++ second⟩ = ofEffect a s said (.ok (next, first ++ second)) := by
  rw [List.append_assoc]
  rfl

theorem run_ofError_bind {x : Except CommandError α} {f : α → Command Unit} {g : α → Effect}
    (each : ∀ a, (f a).run ⟨s, said⟩ = ofEffect () s said (g a)) :
    (orRaise .ofError x >>= f).run ⟨s, said⟩ = ofEffect () s said (x >>= g) := by
  cases x with
  | ok a => exact each a
  | error error => rfl

theorem run_index_bind {x : Except IndexError α} {f : α → Command Unit} {g : α → Effect}
    (each : ∀ a, (f a).run ⟨s, said⟩ = ofEffect () s said (g a)) :
    (orRaise .index x >>= f).run ⟨s, said⟩ = ofEffect () s said (x.mapError .index >>= g) := by
  cases x with
  | ok a => exact each a
  | error error => rfl

theorem run_orRaise {raise : ε → Raised} {x : Except ε α} {console : Console} :
    (orRaise raise x).run console = match x with
      | .ok a => .ok a console
      | .error error => .error (raise error) console := by
  cases x <;> rfl

theorem run_catching (known : Raised → Option κ) (work : Command α) (console : Console) :
    (catching known work).run console = match work.run console with
      | .ok a left => .ok (.ok a) left
      | .error raised left =>
        match known raised with
        | some caught => .ok (.error caught) left
        | none => .error raised left := by
  show EStateM.tryCatch (EStateM.map Except.ok work) _ console = _
  unfold EStateM.tryCatch EStateM.map EStateM.run
  cases work console with
  | ok a left => rfl
  | error raised left =>
    show EStateM.run (match known raised with | some caught => _ | none => _ : Command _) left = _
    dsimp only
    cases known raised <;> rfl

theorem run_operate (operation : Machine → Outcome α) :
    (operate operation).run ⟨s, said⟩ =
      let outcome := operation s.machine
      (orRaise .fault outcome.result).run
        ⟨{ s with machine := outcome.machine }, said ++ Entry.ofEvents outcome.events⟩ := rfl

theorem run_catching_operate (operation : Machine → Outcome α) :
    (catching Raised.fault? (operate operation)).run ⟨s, said⟩ =
      let outcome := operation s.machine
      .ok outcome.result
        ⟨{ s with machine := outcome.machine }, said ++ Entry.ofEvents outcome.events⟩ := by
  rw [run_catching, run_operate]
  dsimp only
  cases (operation s.machine).result <;> rfl

theorem run_machine : machine.run ⟨s, said⟩ = .ok s.machine ⟨s, said⟩ := rfl

theorem run_session : session.run ⟨s, said⟩ = .ok s ⟨s, said⟩ := rfl

theorem run_say (text : String) :
    (say text).run ⟨s, said⟩ = .ok () ⟨s, said ++ [.line text]⟩ := rfl

theorem run_bind_ok {work : Command α} {f : α → Command κ} {console left : Console} {a : α}
    (done : work.run console = .ok a left) : (work >>= f).run console = (f a).run left := by
  rw [EStateM.run_bind, done]

/-! ### Loading -/

theorem run_install (image : Array UInt8) (origin : String) :
    (install image origin).run ⟨s, said⟩ = ofEffect () s said (.ok (s.install image origin)) := by
  have entries : said ++ [.event .reset] ++ [.event (.loaded (Memory.storedSize image))] ++
      [.line s!"Loaded {Memory.storedSize image} bytes from {origin} at 0x200"] =
      said ++ (s.install image origin).2 := by
    rw [List.append_assoc, List.append_assoc]
    rfl
  rw [ofEffect, ← entries]
  rfl

theorem run_load : (load files argument).run ⟨s, said⟩ =
    ofEffect () s said (s.load files argument) := by
  refine run_ofError_bind fun words => ?_
  cases words with
  | nil => rfl
  | cons path rest =>
    rw [EStateM.run_bind, run_catching, run_orRaise]
    dsimp only
    cases files.read path with
    | ok image => exact run_install image (Session.pathText path)
    | error error => cases error <;> rfl

theorem run_installSource [Heap] (source : List Char) (origin : String) :
    (installSource source origin).run ⟨s, said⟩ =
      ofEffect () s said (s.installSource source origin) := by
  rw [installSource, Session.installSource, EStateM.run_bind, run_catching, run_orRaise]
  cases Assembly.assembleImage source with
  | ok image => exact run_install image origin
  | error error => cases error <;> rfl

theorem run_assembleAndLoad [Heap] : (assembleAndLoad files argument).run ⟨s, said⟩ =
    ofEffect () s said (s.assembleAndLoad files argument) := by
  refine run_ofError_bind fun words => ?_
  fun_cases sourceNamed? files words with
  | case1 => rfl
  | case2 rest => exact run_installSource _ _
  | case3 path rest no_inline =>
    -- As the first word is not the option, it names a file.
    simp only
    rw [EStateM.run_bind, run_catching, run_orRaise]
    cases files.readText path with
    | ok source => exact run_installSource source (Session.pathText path)
    | error error =>
      cases error with
      | encoding error => rfl
      | file error => cases error <;> rfl

theorem run_reset : reset.run ⟨s, said⟩ = ofEffect () s said s.reset := by
  obtain ⟨m, image, breakpoints⟩ := s
  cases image with
  | none => exact ofEffect_append _ [.event .reset] [.line "Machine reset."]
  | some image =>
    refine Eq.trans ?_ (ofEffect_append _
      [.event .reset, .event (.loaded (Memory.storedSize image))] [.line "Machine reset."])
    rw [List.append_cons said]
    rfl

/-! ### Running a program -/

theorem run_operate_start (calm : s.machine.state.fault? = none) :
    (operate Machine.start).run ⟨s, said⟩ =
      .ok true ⟨{ s with machine := s.machine.start.machine }, said⟩ := by
  rw [run_operate, Machine.start_calm calm]
  dsimp only
  rw [Entry.ofEvents, List.map_nil, List.append_nil]
  rfl

theorem run_operate_stop : (operate Machine.stop).run ⟨s, said⟩ =
    .ok () ⟨{ s with machine := s.machine.stop.machine },
      said ++ Entry.ofEvents s.machine.stop.events⟩ := by
  rw [run_operate]
  obtain calm | ⟨fault, panicked⟩ := Machine.calm_or_panicked s.machine.state
  · rw [Machine.stop_calm calm]
    rfl
  · rw [Machine.stop_panicked panicked]
    rfl

theorem pc_stop (m : Machine) : m.stop.machine.pc = m.pc := by
  obtain ⟨state, same⟩ := m.stop_machine
  rw [same]

theorem run_start : start.run ⟨s, said⟩ = ofEffect () s said s.start := by
  obtain calm | ⟨fault, panicked⟩ := Machine.calm_or_panicked s.machine.state
  · rw [start, run_bind_ok (run_operate_start calm), Session.start, Machine.start_calm calm]
    rfl
  · have idle : s.machine.isRunning = false := by rw [Machine.isRunning, panicked]; rfl
    rw [start, EStateM.run_bind, run_operate, Session.start, Machine.start_panicked panicked, idle]
    exact ofEffect_append _ [] [.line _]

theorem run_stop : stop.run ⟨s, said⟩ = ofEffect () s said s.stop := by
  rw [stop, run_bind_ok run_operate_stop, run_bind_ok run_machine, pc_stop]
  exact ofEffect_append _ _ [.line _]

-- `a` is any integer here: given a natural number, the kernel would run the range check of `byteAt`
-- by counting.
theorem run_sayExecuted {a : Int} {b₀ b₁ : UInt8} {i : Instruction}
    (first : Disassembly.byteAt s.machine.memory.toArray a = .ok b₀)
    (second : Disassembly.byteAt s.machine.memory.toArray (a + 1) = .ok b₁)
    (last : s.machine.last = some i) :
    (sayExecuted a).run ⟨s, said⟩ = .ok () ⟨s, said ++
      [.line ("  " ++ s!"{addressHex a}: {byteHex b₀} {byteHex b₁}  {i.text}")]⟩ := by
  have bytes : (byteAt a).run ⟨s, said⟩ = .ok b₀ ⟨s, said⟩ ∧
      (byteAt (a + 1)).run ⟨s, said⟩ = .ok b₁ ⟨s, said⟩ := by
    constructor <;> rw [byteAt, run_bind_ok run_machine, run_orRaise]
    · rw [first]
    · rw [second]
  have text : lastText s.machine = i.text := by rw [lastText, last]
  rw [sayExecuted, run_bind_ok bytes.1, run_bind_ok bytes.2, run_bind_ok run_machine, text]
  exact run_say _

/-- What `step` shows of an instruction that completes is what the machine has executed. -/
theorem run_sayExecuted_of_ok (done : m.step.result = .ok true) :
    (sayExecuted m.pc.toNat).run ⟨{ s with machine := m.step.machine }, said⟩ =
      .ok () ⟨{ s with machine := m.step.machine }, said ++
        [.line (Session.instructionLine m)]⟩ := by
  obtain ⟨b₀, b₁, past, fetch, line, last⟩ := Session.line_of_step_ok done
  unfold Machine.fetch at fetch
  split at fetch
  · rename_i left
    cases fetch
    have second := Disassembly.byteAt_memory m.memory left
    rw [Int.natCast_add] at second
    rw [line]
    apply run_sayExecuted (i := decodeBytes m.memory[m.pc.toNat] m.memory[m.pc.toNat + 1])
    · show Disassembly.byteAt m.step.machine.memory.toArray _ = _
      rw [Machine.memory_step, Disassembly.byteAt_memory m.memory (by omega)]
    · show Disassembly.byteAt m.step.machine.memory.toArray _ = _
      rw [Machine.memory_step]
      exact second
    · exact last
  · cases fetch

theorem run_stepTimes (count : Nat) (out : Array Entry) :
    (stepTimes count).run ⟨{ s with machine := m }, said ++ out.toList⟩ =
      .ok () ⟨{ s with machine := (Session.stepLoop count m out).1 },
        said ++ (Session.stepLoop count m out).2.toList⟩ := by
  induction count generalizing m out with
  | zero => rfl
  | succ count ih =>
    -- What has been said so far one loop keeps in an array and the other on the console.
    have entries : said ++ out.toList ++ Entry.ofEvents m.step.events =
        said ++ (out ++ Entry.ofEvents m.step.events).toList := by
      rw [Array.toList_appendList, List.append_assoc]
    rw [stepTimes, Session.stepLoop, run_bind_ok run_machine, run_bind_ok (run_catching_operate _)]
    dsimp only
    rw [entries]
    cases result : m.step.result with
    | error fault =>
      dsimp only
      rw [run_say, Array.toList_push, List.append_assoc]
    | ok going =>
      cases going with
      | false =>
        dsimp only
        rw [run_bind_ok run_machine, run_say, Array.toList_push, List.append_assoc]
      | true =>
        dsimp only
        rw [run_bind_ok (run_sayExecuted_of_ok result), run_bind_ok run_machine, List.append_assoc,
          ← Array.toList_push]
        dsimp only
        split
        · rw [run_bind_ok run_machine, run_say, List.append_assoc, ← Array.toList_push]
        · exact ih _

theorem run_step : (step argument).run ⟨s, said⟩ = ofEffect () s said (s.step argument) := by
  refine run_ofError_bind fun count => ?_
  have stepped : (stepTimes count.toNat).run
      ⟨{ s with machine := Session.wake s.machine }, said ++ []⟩ = _ :=
    run_stepTimes count.toNat #[]
  rw [List.append_nil] at stepped
  rw [run_bind_ok run_machine]
  refine Eq.trans ?_ stepped
  unfold Session.wake
  cases state : s.machine.state with
  | halted =>
    have calm : s.machine.state.fault? = none := by rw [state]; rfl
    exact run_bind_ok (run_operate_start calm)
  | idle | running | panicked => rfl

theorem run_concludeRun (total : Nat) : (concludeRun total).run ⟨s, said⟩ =
    .ok () ⟨s, said ++ [.line <|
      if s.machine.isStopped then s!"{Session.haltText s.machine} after {total} instructions."
      else s!"\nStopped after {total} steps."]⟩ := by
  rw [concludeRun, run_bind_ok run_machine]
  cases s.machine.isStopped <;> rfl

theorem run_runTimes (limit total : Nat) (events : Array Event) :
    (runTimes limit total).run ⟨{ s with machine := m }, said ++ Entry.ofEvents events.toList⟩ =
      let ran := (Session.runLoop s.breakpoints limit total m events).conclude
      ofEffect () s said (.ok ({ s with machine := ran.1 }, ran.2)) := by
  induction limit generalizing m total events with
  | zero =>
    rw [runTimes, run_concludeRun]
    exact ofEffect_append _ _ [.line _]
  | succ limit ih =>
    have entries : said ++ Entry.ofEvents events.toList ++ Entry.ofEvents m.step.events =
        said ++ Entry.ofEvents (events ++ m.step.events).toList := by
      rw [List.append_assoc, Array.toList_appendList, Entry.ofEvents, Entry.ofEvents,
        ← List.map_append]
      rfl
    rw [runTimes, Session.runLoop, run_bind_ok run_machine, run_bind_ok run_session]
    dsimp only
    split
    · rw [run_bind_ok run_operate_stop, run_bind_ok run_machine, run_say, pc_stop,
        List.append_assoc said]
      exact ofEffect_append _ _ [.line _]
    · rw [run_bind_ok (run_catching_operate _)]
      dsimp only
      rw [entries]
      cases result : m.step.result with
      | error fault => exact ofEffect_append _ _ [.line _]
      | ok going =>
        cases going with
        | false =>
          dsimp only
          rw [run_concludeRun]
          exact ofEffect_append _ _ [.line _]
        | true =>
          dsimp only
          rw [run_bind_ok run_machine]
          dsimp only
          split
          · rw [run_concludeRun]
            exact ofEffect_append _ _ [.line _]
          · exact ih _ _

theorem run_runProgram : (runProgram argument).run ⟨s, said⟩ =
    ofEffect () s said (s.run argument) := by
  refine run_ofError_bind fun limit => ?_
  rw [run_bind_ok run_machine]
  obtain calm | ⟨fault, panicked⟩ := Machine.calm_or_panicked s.machine.state
  · have ran : (runTimes limit.toNat 0).run
        ⟨{ s with machine := s.machine.start.machine }, said ++ []⟩ = _ :=
      run_runTimes limit.toNat 0 #[]
    rw [List.append_nil] at ran
    cases state : s.machine.state with
    | panicked fault => simp [state, RunState.fault?] at calm
    | idle | running | halted => exact (run_bind_ok (run_operate_start calm)).trans ran
  · rw [panicked]
    rfl

theorem run_breakpoint : (breakpoint argument).run ⟨s, said⟩ =
    ofEffect () s said (s.breakpoint argument) := by
  unfold breakpoint Session.breakpoint
  split
  · rw [run_bind_ok run_session, Session.say]
    dsimp only
    cases s.breakpoints.isEmpty with
    | true => rfl
    | false => exact ofEffect_append s [.line "Breakpoints:"] _
  · rw [run_bind_ok run_session]
    exact run_ofError_bind fun a => rfl

theorem run_clearBreakpoint : (clearBreakpoint argument).run ⟨s, said⟩ =
    ofEffect () s said (s.clearBreakpoint argument) := by
  unfold clearBreakpoint Session.clearBreakpoint
  split
  · rfl
  · rw [run_bind_ok run_session]
    exact run_ofError_bind fun a => rfl

/-! ### Looking at the machine -/

theorem run_registers : registers.run ⟨s, said⟩ = ofEffect () s said s.registers :=
  ofEffect_append s [.line _] [.line _]

theorem run_dump : (dump argument).run ⟨s, said⟩ = ofEffect () s said (s.dump argument) := by
  refine run_ofError_bind fun words => ?_
  rw [run_bind_ok run_session]
  refine run_ofError_bind fun a => ?_
  refine run_ofError_bind fun count => ?_
  rw [run_bind_ok run_machine]
  exact run_index_bind fun lines => rfl

theorem run_disassemble : (disassemble argument).run ⟨s, said⟩ =
    ofEffect () s said (s.disassemble argument) := by
  refine run_ofError_bind fun words => ?_
  rw [run_bind_ok run_machine]
  cases words with
  | nil => exact run_index_bind fun rows => rfl
  | cons word rest =>
    dsimp only
    rw [run_bind_ok run_session]
    refine run_ofError_bind fun a => ?_
    refine run_ofError_bind fun count => ?_
    exact run_index_bind fun rows => rfl

theorem run_framebuffer : (framebuffer argument).run ⟨s, said⟩ =
    ofEffect () s said (s.framebuffer argument) := by
  unfold framebuffer Session.framebuffer
  cases Session.ScreenAction.ofWord? (lower (trim argument)) <;> rfl

theorem run_status : status.run ⟨s, said⟩ = ofEffect () s said s.status := by
  rw [status, Session.status, run_bind_ok run_machine, run_bind_ok (run_say _),
    run_bind_ok (run_say _)]
  dsimp only
  cases s.machine.last <;> cases s.machine.state.fault? <;>
    simp [Session.say, ofEffect, EStateM.run_bind, run_say]

/-! ### What a line comes to -/

theorem run_goingOn {work : Command Unit} {effect : Effect}
    (done : work.run ⟨s, said⟩ = ofEffect () s said effect) :
    (goingOn work).run ⟨s, said⟩ = ofEffect false s said effect := by
  rw [goingOn, EStateM.run_bind, done]
  cases effect <;> rfl

theorem run_perform [Heap] (verb : Verb) : (perform files verb argument).run ⟨s, said⟩ =
    ofEffect (Session.endsMonitor (.command verb argument)) s said
      (s.perform files verb argument) := by
  cases verb with
  | load => exact run_goingOn run_load
  | assemble => exact run_goingOn run_assembleAndLoad
  | reset => exact run_goingOn run_reset
  | start => exact run_goingOn run_start
  | stop => exact run_goingOn run_stop
  | step => exact run_goingOn run_step
  | run | proceed => exact run_goingOn run_runProgram
  | breakpoint => exact run_goingOn run_breakpoint
  | clearBreakpoint => exact run_goingOn run_clearBreakpoint
  | registers => exact run_goingOn run_registers
  | dump => exact run_goingOn run_dump
  | disassemble => exact run_goingOn run_disassemble
  | framebuffer => exact run_goingOn run_framebuffer
  | status => exact run_goingOn run_status
  | stack | screen | help => exact run_goingOn rfl
  | quit => rfl
  | endOfInput => exact ofEffect_append s [.line ""] [.line "Goodbye."]

theorem run_ofLine [Heap] (line : List Char) : (ofLine files line).run ⟨s, said⟩ =
    ofEffect (Session.endsMonitor (Line.parse line)) s said
      (s.performLine files (Line.parse line)) := by
  unfold ofLine
  cases Line.parse line with
  | empty =>
    rw [Session.performLine, ofEffect, List.append_nil]
    rfl
  | command verb argument => exact run_perform verb
  | unknown word => exact run_goingOn rfl

end

end Command

namespace Session

variable {s next : Session} {files : Directory} {argument line : List Char} {said : List Entry}

/-! ### Failures to load -/

/-- Either the session stays, or an image is installed in it. -/
def Installs (s next : Session) (said : List Entry) : Prop :=
  next = s ∨ ∃ image origin, (next, said) = s.install image origin

theorem installs_of_load (loaded : s.load files argument = .ok (next, said)) :
    s.Installs next said := by
  obtain ⟨words, -, goes⟩ := bind_eq_ok.mp loaded
  split at goes
  · cases goes
    exact .inl rfl
  · split at goes
    · cases goes
      exact .inr ⟨_, _, rfl⟩
    · cases goes
    · cases goes
      exact .inl rfl

theorem installs_of_installSource [Heap] {source : List Char} {origin : String}
    (loaded : s.installSource source origin = .ok (next, said)) : s.Installs next said := by
  unfold installSource at loaded
  split at loaded
  · cases loaded
    exact .inr ⟨_, _, rfl⟩
  · cases loaded
    exact .inl rfl
  · cases loaded

theorem installs_of_assembleAndLoad [Heap]
    (loaded : s.assembleAndLoad files argument = .ok (next, said)) : s.Installs next said := by
  obtain ⟨words, -, goes⟩ := bind_eq_ok.mp loaded
  split at goes
  · cases goes
    exact .inl rfl
  · exact installs_of_installSource goes
  · split at goes
    · exact installs_of_installSource goes
    · cases goes
    · cases goes
    · cases goes
      exact .inl rfl

/-- A text that tells of a file that cannot be had or of a program that cannot be assembled. -/
def TellsOfFailure (text : String) : Prop :=
  "Error".toList <+: text.toList ∨ "Assembly error".toList <+: text.toList

theorem not_tellsOfFailure_loaded (rest : String) : ¬TellsOfFailure ("Loaded " ++ rest) := by
  simp [TellsOfFailure]

theorem eq_of_tellsOfFailure {text : String} (installs : s.Installs next said)
    (told : text ∈ textsIn said) (fails : TellsOfFailure text) : next = s := by
  obtain same | ⟨image, origin, installed⟩ := installs
  · exact same
  · obtain ⟨-, rfl⟩ := Prod.mk.inj installed
    rw [textsIn_ofEvents_line, List.mem_singleton] at told
    simp only [String.append_assoc] at told
    exact absurd (told ▸ fails) (not_tellsOfFailure_loaded _)

/-! ### Errors -/

/-- If this fails, then not with an assembly error that is about a line. -/
def BlamesNoLine {α : Type} (x : Except CommandError α) : Prop :=
  ∀ error, x = .error error → (Raised.ofError error).lineError? = none

variable {α β ε : Type}

theorem blamesNoLine_ok (a : α) : BlamesNoLine (.ok a) := fun _ never => nomatch never

theorem blamesNoLine_bind {x : Except CommandError α} {f : α → Except CommandError β}
    (first : BlamesNoLine x) (rest : ∀ a, BlamesNoLine (f a)) : BlamesNoLine (x >>= f) := by
  intro error fails
  obtain fails | ⟨a, -, fails⟩ := bind_eq_error.mp fails
  · exact first error fails
  · exact rest a error fails

theorem blamesNoLine_mapError {x : Except ε α} {embed : ε → CommandError}
    (each : ∀ error, (Raised.ofError (embed error)).lineError? = none) :
    BlamesNoLine (x.mapError embed) := by
  intro error fails
  obtain ⟨cause, -, rfl⟩ := mapError_eq_error.mp fails
  exact each cause

theorem blamesNoLine_words : BlamesNoLine (argumentWords argument) :=
  blamesNoLine_mapError fun _ => rfl

theorem blamesNoLine_number {word : List Char} : BlamesNoLine (number word) :=
  blamesNoLine_mapError fun _ => rfl

theorem blamesNoLine_numberOr {otherwise : Int} : BlamesNoLine (numberOr otherwise argument) := by
  unfold numberOr
  split
  · exact blamesNoLine_ok _
  · exact blamesNoLine_number

theorem blamesNoLine_address {word : List Char} : BlamesNoLine (s.address word) := by
  unfold address
  dsimp only
  split
  · exact blamesNoLine_ok _
  · split
    · exact blamesNoLine_ok _
    · exact blamesNoLine_mapError fun _ => rfl

theorem blamesNoLine_wordOr {otherwise : Int} {f : List Char → Except CommandError Int}
    {words : List (List Char)} {n : Nat} (each : ∀ word, BlamesNoLine (f word)) :
    BlamesNoLine (wordOr otherwise f words n) := by
  unfold wordOr
  split
  · exact each _
  · exact blamesNoLine_ok _

theorem blamesNoLine_load : BlamesNoLine (s.load files argument) := by
  refine blamesNoLine_bind blamesNoLine_words fun words => ?_
  split
  · exact blamesNoLine_ok _
  · split
    · exact blamesNoLine_ok _
    · rintro error ⟨⟩
      rfl
    · exact blamesNoLine_ok _

theorem blamesNoLine_installSource [Heap] {source : List Char} {origin : String} :
    BlamesNoLine (s.installSource source origin) := by
  unfold installSource
  split
  · exact blamesNoLine_ok _
  · exact blamesNoLine_ok _
  · -- An error about a line has been caught above.
    rename_i error no_line _
    rintro _ ⟨⟩
    cases error with
    | line number cause => exact absurd rfl (no_line number cause)
    | padding | sizeMismatch | emptyProgram => rfl

theorem blamesNoLine_assembleAndLoad [Heap] :
    BlamesNoLine (s.assembleAndLoad files argument) := by
  refine blamesNoLine_bind blamesNoLine_words fun words => ?_
  split
  · exact blamesNoLine_ok _
  · exact blamesNoLine_installSource
  · split
    · exact blamesNoLine_installSource
    · rintro error ⟨⟩
      rfl
    · rintro error ⟨⟩
      rfl
    · exact blamesNoLine_ok _

theorem blamesNoLine_run : BlamesNoLine (s.run argument) := by
  refine blamesNoLine_bind blamesNoLine_numberOr fun limit => ?_
  split <;> exact blamesNoLine_ok _

theorem blamesNoLine_breakpoint : BlamesNoLine (s.breakpoint argument) := by
  unfold breakpoint
  split
  · exact blamesNoLine_ok _
  · exact blamesNoLine_bind blamesNoLine_address fun a => blamesNoLine_ok _

theorem blamesNoLine_clearBreakpoint : BlamesNoLine (s.clearBreakpoint argument) := by
  unfold clearBreakpoint
  split
  · exact blamesNoLine_ok _
  · exact blamesNoLine_bind blamesNoLine_address fun a => blamesNoLine_ok _

theorem blamesNoLine_dump : BlamesNoLine (s.dump argument) := by
  refine blamesNoLine_bind blamesNoLine_words fun words => ?_
  refine blamesNoLine_bind (blamesNoLine_wordOr fun _ => blamesNoLine_address) fun a => ?_
  refine blamesNoLine_bind (blamesNoLine_wordOr fun _ => blamesNoLine_number) fun count => ?_
  exact blamesNoLine_bind (blamesNoLine_mapError fun _ => rfl) fun lines => blamesNoLine_ok _

theorem blamesNoLine_disassemble : BlamesNoLine (s.disassemble argument) := by
  refine blamesNoLine_bind blamesNoLine_words fun words => ?_
  cases words with
  | nil =>
    exact blamesNoLine_bind (blamesNoLine_mapError fun _ => rfl) fun rows => blamesNoLine_ok _
  | cons word rest =>
    refine blamesNoLine_bind (blamesNoLine_wordOr fun _ => blamesNoLine_address) fun a => ?_
    refine blamesNoLine_bind (blamesNoLine_wordOr fun _ => blamesNoLine_number) fun count => ?_
    exact blamesNoLine_bind (blamesNoLine_mapError fun _ => rfl) fun rows => blamesNoLine_ok _

theorem blamesNoLine_framebuffer : BlamesNoLine (s.framebuffer argument) := by
  unfold framebuffer
  split <;> exact blamesNoLine_ok _

theorem blamesNoLine_performLine [Heap] (line : Line) :
    BlamesNoLine (s.performLine files line) := by
  cases line with
  | empty | unknown => exact blamesNoLine_ok _
  | command verb argument =>
    cases verb with
    | load => exact blamesNoLine_load
    | assemble => exact blamesNoLine_assembleAndLoad
    | step => exact blamesNoLine_bind blamesNoLine_numberOr fun count => blamesNoLine_ok _
    | run | proceed => exact blamesNoLine_run
    | breakpoint => exact blamesNoLine_breakpoint
    | clearBreakpoint => exact blamesNoLine_clearBreakpoint
    | dump => exact blamesNoLine_dump
    | disassemble => exact blamesNoLine_disassemble
    | framebuffer => exact blamesNoLine_framebuffer
    | reset | start | stop | registers | stack | screen | status | help | quit | endOfInput =>
      exact blamesNoLine_ok _

/-! ### Lines that raise -/

theorem react_ok [Heap] (performed : s.performLine files (Line.parse line) = .ok (next, said)) :
    s.react files line = ⟨next, said, .ok (endsMonitor (Line.parse line))⟩ := by
  rw [react, performed]

theorem react_error [Heap] {error : CommandError}
    (failed : s.performLine files (Line.parse line) = .error error) :
    s.react files line = ⟨s, [], .error error⟩ := by
  rw [react, failed]

/-- Nothing that a line raises is a fault, an assembly error about a line or an error of the file
system, and nothing has been written or said then. Nor is anything written when a line that loads a
program says that it cannot. -/
theorem raising_line_changes_nothing [Heap] (s : Session) (files : Directory) (line : List Char)
    (said : List Entry) :
    (∀ raised left, (Command.ofLine files line).run ⟨s, said⟩ = .error raised left →
      raised.fault? = none ∧ raised.lineError? = none ∧ raised.systemError? = none ∧
      left = ⟨s, said⟩ ∧
      ∃ error, raised = .ofError error ∧ s.react files line = ⟨s, [], .error error⟩) ∧
    ∀ ends left, (Command.ofLine files line).run ⟨s, said⟩ = .ok ends left →
      ∃ more, left.said = said ++ more ∧ s.react files line = ⟨left.session, more, .ok ends⟩ ∧
      ∀ verb argument, verb = .load ∨ verb = .assemble → Line.parse line = .command verb argument →
        ∀ text ∈ textsIn more, TellsOfFailure text → left.session = s := by
  rw [Command.run_ofLine]
  cases performed : s.performLine files (Line.parse line) with
  | error error =>
    constructor
    · rintro _ _ ⟨⟩
      have blameless := blamesNoLine_performLine (Line.parse line) error performed
      refine ⟨?_, blameless, ?_, rfl, error, rfl, react_error performed⟩
      · cases error <;> rfl
      · cases error <;> rfl
    · rintro _ _ ⟨⟩
  | ok effect =>
    obtain ⟨next, more⟩ := effect
    constructor
    · rintro _ _ ⟨⟩
    · rintro _ _ ⟨⟩
      refine ⟨more, rfl, react_ok performed, ?_⟩
      intro verb argument loading typed text told fails
      rw [typed] at performed
      obtain rfl | rfl := loading
      · exact eq_of_tellsOfFailure (installs_of_load performed) told fails
      · exact eq_of_tellsOfFailure (installs_of_assembleAndLoad performed) told fails

/-- A count that is no number, a file that is not there, and a program that is none. -/
theorem raising_line_changes_nothing_in_three :
    let _ : Heap := .unlimited
    let s : Session := ⟨Machine.powerOn 7 true, some #[0x00, 0xE0], [0x202]⟩
    let typed (line : String) := (Command.ofLine .empty line.toList).run ⟨s, []⟩
    (∃ raised left, typed "step 0x" = .error raised left ∧ left = ⟨s, []⟩ ∧
      raised.systemError? = none) ∧
    (∃ left, typed "load q" = .ok false left ∧ left.session = s ∧
      textsIn left.said = ["Error: [Errno 2] No such file or directory: 'q'\n"]) ∧
    ∃ left, typed "asm -e nop" = .ok false left ∧ left.session = s ∧
      textsIn left.said = ["Assembly error: Line 1: Unknown mnemonic: 'nop'\n"] := by
  intro _ s typed
  have parsed : Line.parse "step 0x".toList = .command .step ['0', 'x'] ∧
      Line.parse "load q".toList = .command .load ['q'] ∧
      Line.parse "asm -e nop".toList = .command .assemble "-e nop".toList := by decide
  obtain ⟨step_parsed, load_parsed, assemble_parsed⟩ := parsed
  have keeps {line text : String} {verb : Verb} {argument : List Char} {left : Console}
      (loading : verb = .load ∨ verb = .assemble)
      (parsed : Line.parse line.toList = .command verb argument)
      (runs : typed line = .ok false left) (told : textsIn left.said = [text])
      (fails : TellsOfFailure text) : left.session = s := by
    obtain ⟨more, said, -, keeps⟩ :=
      (raising_line_changes_nothing s .empty line.toList []).2 _ _ runs
    have told : text ∈ textsIn more := by
      rw [said] at told
      exact told ▸ List.mem_singleton.mpr rfl
    exact keeps verb argument loading parsed text told fails
  refine ⟨?_, ?_, ?_⟩
  · obtain ⟨error, bad⟩ : ∃ error, s.step ['0', 'x'] = .error error := ⟨_, rfl⟩
    have raises : typed "step 0x" = .error (.ofError error) ⟨s, []⟩ := by
      show (Command.ofLine .empty "step 0x".toList).run _ = _
      rw [Command.run_ofLine, step_parsed]
      exact congrArg (Command.ofEffect false s []) bad
    obtain ⟨-, -, no_system, kept, -⟩ :=
      (raising_line_changes_nothing s .empty "step 0x".toList []).1 _ _ raises
    exact ⟨_, _, raises, kept, no_system⟩
  · have bad : s.load .empty ['q'] =
        .ok (s, [.line "Error: [Errno 2] No such file or directory: 'q'"]) := rfl
    have runs : typed "load q" = Command.ofEffect false s [] (s.load .empty ['q']) := by
      show (Command.ofLine .empty "load q".toList).run _ = _
      rw [Command.run_ofLine, load_parsed]
      rfl
    rw [bad] at runs
    exact ⟨_, runs, keeps (.inl rfl) load_parsed runs rfl (.inl (by decide)), rfl⟩
  · have bad : s.assembleAndLoad .empty "-e nop".toList =
        .ok (s, [.line "Assembly error: Line 1: Unknown mnemonic: 'nop'"]) := rfl
    have runs : typed "asm -e nop" =
        Command.ofEffect false s [] (s.assembleAndLoad .empty "-e nop".toList) := by
      show (Command.ofLine .empty "asm -e nop".toList).run _ = _
      rw [Command.run_ofLine, assemble_parsed]
      rfl
    rw [bad] at runs
    exact ⟨_, runs, keeps (.inr rfl) assemble_parsed runs rfl (.inr (by decide)), rfl⟩

end Session

end ChipEight.Monitor
