import ChipEight.Monitor.Reaction
import ChipEight.Proofs.Except
import ChipEight.Proofs.Machine.Reset

/-!
# Reloading

What a session's lines make of its machine and its image. Whatever was typed before, a line that
loads a program leaves the machine as if it had been switched on and loaded, and a reset leaves it
so with the last program loaded (`session_react_of_image`, `image_reactAll`).
-/

namespace ChipEight

/-- A machine as it is switched on and loaded, if there is an image. -/
def Machine.powerOnWith (seed : Int) (wrap : Bool) : Option (Array UInt8) → Machine
  | none => powerOn seed wrap
  | some image => ((powerOn seed wrap).load image).machine

namespace Monitor

open Text

/-! ### What a line loads -/

/-- The file that an argument of `load` names, if it can be read. -/
def fileNamed? (files : Directory) (argument : List Char) : Option (Array UInt8) :=
  match ShellWords.split argument with
  | .ok (path :: _) => (files.read path).toOption
  | _ => none

/-- The source that the words after `asm` give or name. -/
def sourceNamed? (files : Directory) : List (List Char) → Option (List Char)
  | [] => none
  | ['-', 'e'] :: rest => some (Session.inlineSource (rest.headD []))
  | path :: _ => (files.readText path).toOption

/-- The image that an argument of `asm` gives or names. -/
def imageAssembled? [Heap] (files : Directory) (argument : List Char) : Option (Array UInt8) := do
  let words ← (ShellWords.split argument).toOption
  let source ← sourceNamed? files words
  (Assembly.assembleImage source).toOption

/-- The image that a line loads, if it loads one. -/
def imageTyped? [Heap] (files : Directory) (line : List Char) : Option (Array UInt8) :=
  match Line.parse line with
  | .command .load argument => fileNamed? files argument
  | .command .assemble argument => imageAssembled? files argument
  | _ => none

/-- The image loaded last, `image` being there before the lines were typed. -/
def lastImage [Heap] (image : Option (Array UInt8)) (typed : List (Directory × List Char)) :
    Option (Array UInt8) :=
  typed.foldl (fun last (files, line) => (imageTyped? files line).or last) image

namespace Session

variable {s : Session} {files : Directory}

/-- The session after some lines, each typed at the files that were there then. -/
def reactAll [Heap] (s : Session) (typed : List (Directory × List Char)) : Session :=
  typed.foldl (fun s (files, line) => (s.react files line).session) s

def after (s : Session) : Effect → Session
  | .ok (next, _) => next
  | .error _ => s

theorem session_react [Heap] (s : Session) (files : Directory) (line : List Char) :
    (s.react files line).session = s.after (s.performLine files (Line.parse line)) := by
  unfold react after
  dsimp only
  split <;> simp_all

/-! ### Loading -/

/-- The session with another program, if there is one, in a machine that is as good as new. -/
def reload (s : Session) : Option (Array UInt8) → Session
  | none => s
  | some image =>
    { s with
      machine := .powerOnWith s.machine.seed s.machine.screen.wrap (some image), image := some image }

theorem install_eq (s : Session) (image : Array UInt8) (origin : String) :
    (s.install image origin).1 = s.reload (some image) := rfl

theorem after_load (s : Session) (files : Directory) (argument : List Char) :
    s.after (s.load files argument) = s.reload (fileNamed? files argument) := by
  unfold load argumentWords fileNamed?
  cases ShellWords.split argument with
  | error error => rfl
  | ok words =>
    cases words with
    | nil => rfl
    | cons path rest =>
      rw [mapError_ok, ok_bind]
      dsimp only
      cases files.read path with
      | ok image => exact install_eq s image (pathText path)
      | error error => cases error <;> rfl

theorem after_installSource [Heap] (s : Session) (source : List Char) (origin : String) :
    s.after (s.installSource source origin) =
      s.reload (Assembly.assembleImage source).toOption := by
  unfold installSource
  cases Assembly.assembleImage source with
  | ok image => exact install_eq s image origin
  | error error => cases error <;> rfl

theorem after_assembleAndLoad [Heap] (s : Session) (files : Directory) (argument : List Char) :
    s.after (s.assembleAndLoad files argument) = s.reload (imageAssembled? files argument) := by
  unfold assembleAndLoad argumentWords imageAssembled?
  cases ShellWords.split argument with
  | error error => rfl
  | ok words =>
    rw [mapError_ok, ok_bind]
    show _ = s.reload ((sourceNamed? files words).bind fun source =>
      (Assembly.assembleImage source).toOption)
    fun_cases sourceNamed? files words with
    | case1 => rfl
    | case2 rest => exact after_installSource s _ _
    | case3 path rest no_inline =>
      -- As the first word is not the option, it names a file.
      simp only
      cases files.readText path with
      | ok source => exact after_installSource s source (pathText path)
      | error error =>
        cases error with
        | encoding error => rfl
        | file error => cases error <;> rfl

theorem after_reset (s : Session) : s.after s.reset =
    { s with machine := .powerOnWith s.machine.seed s.machine.screen.wrap s.image } := by
  unfold reset
  cases s.image <;> rfl

/-! ### Other commands -/

/-- No image has been loaded, and the machine is made from the same seed and edges. -/
structure Keeps (s s' : Session) : Prop where
  image : s'.image = s.image
  origin : s'.machine.origin = s.machine.origin

theorem keeps_refl (s : Session) : s.Keeps s := ⟨rfl, rfl⟩

theorem keeps_machine {m : Machine} (same : m.origin = s.machine.origin) :
    s.Keeps { s with machine := m } :=
  ⟨rfl, same⟩

/-- What holds of a session holds after a command whose first part fails. -/
theorem after_bind {α : Type} {P : Session → Prop} {x : Except CommandError α} {f : α → Effect}
    (before : P s) (each : ∀ a, P (s.after (f a))) : P (s.after (x >>= f)) := by
  cases x with
  | ok a => exact each a
  | error error => exact before

theorem keeps_of_ok {α : Type} {x : Except CommandError α} {f : α → Effect}
    (each : ∀ a, s.Keeps (s.after (f a))) : s.Keeps (s.after (x >>= f)) :=
  after_bind (keeps_refl s) each

theorem origin_stepLoop (count : Nat) (m : Machine) (out : Array Entry) :
    (stepLoop count m out).1.origin = m.origin := by
  induction count generalizing m out with
  | zero => rfl
  | succ count ih =>
    have step := m.origin_step
    unfold stepLoop
    dsimp only
    split
    · exact step
    · exact step
    · split
      · exact step
      · exact (ih _ _).trans step

theorem origin_runLoop (breakpoints : List Int) (limit done : Nat) (m : Machine)
    (events : Array Event) :
    (runLoop breakpoints limit done m events).machine.origin = m.origin := by
  induction limit generalizing done m events with
  | zero => rfl
  | succ limit ih =>
    have step := m.origin_step
    unfold runLoop
    dsimp only
    split
    · rfl
    · split
      · exact step
      · exact step
      · split
        · exact step
        · exact (ih _ _ _).trans step

theorem origin_wake (m : Machine) : (wake m).origin = m.origin := by
  unfold wake
  split
  · exact m.origin_perform .start
  · rfl

theorem origin_conclude (r : RunResult) : r.conclude.1.origin = r.machine.origin := by
  unfold RunResult.conclude
  dsimp only
  split
  · exact r.machine.origin_perform .stop
  · rfl
  · rfl

theorem origin_apply (action : ScreenAction) (m : Machine) :
    (action.apply m).origin = m.origin := by
  -- The random pixels stay closed, or the comparison of the two machines would draw them.
  obtain ⟨drawn, random⟩ : ∃ drawn, m.screen.randomize m.random = drawn := ⟨_, rfl⟩
  have redrawn := Framebuffer.wrap_randomize m.screen m.random
  unfold ScreenAction.apply
  rw [random] at redrawn ⊢
  cases action with
  | clear => rfl
  | fill => rfl
  | random => exact congrArg (m.seed, ·) redrawn

theorem keeps_step (s : Session) (argument : List Char) : s.Keeps (s.after (s.step argument)) := by
  refine keeps_of_ok fun count => ?_
  exact keeps_machine ((origin_stepLoop _ _ _).trans (origin_wake _))

theorem keeps_run (s : Session) (argument : List Char) : s.Keeps (s.after (s.run argument)) := by
  refine keeps_of_ok fun limit => ?_
  split
  · exact keeps_refl s
  · have ran := origin_runLoop s.breakpoints limit.toNat 0 s.machine.start.machine #[]
    exact keeps_machine ((origin_conclude _).trans (ran.trans (s.machine.origin_perform .start)))

theorem keeps_breakpoint (s : Session) (argument : List Char) :
    s.Keeps (s.after (s.breakpoint argument)) := by
  unfold breakpoint
  split
  · exact keeps_refl s
  · exact keeps_of_ok fun a => ⟨rfl, rfl⟩

theorem keeps_clearBreakpoint (s : Session) (argument : List Char) :
    s.Keeps (s.after (s.clearBreakpoint argument)) := by
  unfold clearBreakpoint
  split
  · exact ⟨rfl, rfl⟩
  · exact keeps_of_ok fun a => ⟨rfl, rfl⟩

theorem keeps_framebuffer (s : Session) (argument : List Char) :
    s.Keeps (s.after (s.framebuffer argument)) := by
  unfold framebuffer
  split
  · exact keeps_refl s
  · exact keeps_machine (origin_apply _ _)

theorem keeps_dump (s : Session) (argument : List Char) : s.Keeps (s.after (s.dump argument)) :=
  keeps_of_ok fun _ => keeps_of_ok fun _ => keeps_of_ok fun _ => keeps_of_ok fun _ => keeps_refl s

theorem keeps_disassemble (s : Session) (argument : List Char) :
    s.Keeps (s.after (s.disassemble argument)) := by
  refine keeps_of_ok fun words => ?_
  cases words with
  | nil => exact keeps_of_ok fun _ => keeps_refl s
  | cons word rest =>
    exact keeps_of_ok fun _ => keeps_of_ok fun _ => keeps_of_ok fun _ => keeps_refl s

theorem origin_powerOnWith (seed : Int) (wrap : Bool) (image : Option (Array UInt8)) :
    (Machine.powerOnWith seed wrap image).origin = (seed, wrap) := by
  cases image <;> rfl

theorem powerOnWith_of_origin {m : Machine} {seed : Int} {wrap : Bool}
    (same : m.origin = (seed, wrap)) (image : Option (Array UInt8)) :
    Machine.powerOnWith m.seed m.screen.wrap image = Machine.powerOnWith seed wrap image :=
  congrArg (fun origin : Int × Bool => Machine.powerOnWith origin.1 origin.2 image) same

section

variable [Heap]

theorem keeps_perform {verb : Verb} (s : Session) (files : Directory) (argument : List Char)
    (no_load : verb ≠ .load) (no_assemble : verb ≠ .assemble) (no_reset : verb ≠ .reset) :
    s.Keeps (s.after (s.perform files verb argument)) := by
  cases verb with
  | load => exact absurd rfl no_load
  | assemble => exact absurd rfl no_assemble
  | reset => exact absurd rfl no_reset
  | start => exact keeps_machine (s.machine.origin_perform .start)
  | stop => exact keeps_machine (s.machine.origin_perform .stop)
  | step => exact keeps_step s argument
  | run | proceed => exact keeps_run s argument
  | breakpoint => exact keeps_breakpoint s argument
  | clearBreakpoint => exact keeps_clearBreakpoint s argument
  | dump => exact keeps_dump s argument
  | disassemble => exact keeps_disassemble s argument
  | framebuffer => exact keeps_framebuffer s argument
  | registers | stack | screen | status | help | quit | endOfInput => exact keeps_refl s

/-! ### Lines -/

theorem session_react_of_loading {verb : Verb} {line argument : List Char}
    (loading : verb = .load ∨ verb = .assemble) (typed : Line.parse line = .command verb argument) :
    (s.react files line).session = s.reload (imageTyped? files line) := by
  rw [session_react, imageTyped?, typed]
  obtain rfl | rfl := loading
  · exact after_load s files argument
  · exact after_assembleAndLoad s files argument

theorem session_react_of_reset {line argument : List Char}
    (typed : Line.parse line = .command .reset argument) : (s.react files line).session =
      { s with machine := .powerOnWith s.machine.seed s.machine.screen.wrap s.image } := by
  rw [session_react, typed]
  exact after_reset s

theorem loading_of_imageTyped? {line : List Char} {image : Array UInt8}
    (loads : imageTyped? files line = some image) : ∃ verb argument,
      (verb = .load ∨ verb = .assemble) ∧ Line.parse line = .command verb argument := by
  unfold imageTyped? at loads
  split at loads
  · exact ⟨_, _, .inl rfl, ‹_›⟩
  · exact ⟨_, _, .inr rfl, ‹_›⟩
  · cases loads

theorem session_react_of_image {line : List Char} {image : Array UInt8}
    (loads : imageTyped? files line = some image) :
    (s.react files line).session = s.reload (some image) := by
  obtain ⟨verb, argument, loading, typed⟩ := loading_of_imageTyped? loads
  rw [session_react_of_loading loading typed, loads]

theorem keeps_of_no_image {line : List Char} (loads : imageTyped? files line = none) :
    s.Keeps (s.react files line).session := by
  cases typed : Line.parse line with
  | empty =>
    rw [session_react, typed]
    exact keeps_refl s
  | unknown word =>
    rw [session_react, typed]
    exact keeps_refl s
  | command verb argument =>
    by_cases loading : verb = .load ∨ verb = .assemble
    · rw [session_react_of_loading loading typed, loads]
      exact keeps_refl s
    · obtain ⟨no_load, no_assemble⟩ := not_or.mp loading
      by_cases reset : verb = .reset
      · rw [session_react_of_reset (reset ▸ typed)]
        exact keeps_machine (origin_powerOnWith _ _ _)
      · rw [session_react, typed]
        exact keeps_perform s files argument no_load no_assemble reset

theorem image_react (s : Session) (files : Directory) (line : List Char) :
    (s.react files line).session.image = (imageTyped? files line).or s.image := by
  cases loads : imageTyped? files line with
  | none => exact (keeps_of_no_image loads).image
  | some image =>
    rw [session_react_of_image loads]
    rfl

theorem origin_react (s : Session) (files : Directory) (line : List Char) :
    (s.react files line).session.machine.origin = s.machine.origin := by
  cases loads : imageTyped? files line with
  | none => exact (keeps_of_no_image loads).origin
  | some image =>
    rw [session_react_of_image loads]
    exact origin_powerOnWith _ _ _

theorem image_reactAll (s : Session) (typed : List (Directory × List Char)) :
    (s.reactAll typed).image = lastImage s.image typed := by
  unfold reactAll lastImage
  induction typed generalizing s with
  | nil => rfl
  | cons line typed ih => rw [List.foldl_cons, List.foldl_cons, ih, image_react]

theorem origin_reactAll (s : Session) (typed : List (Directory × List Char)) :
    (s.reactAll typed).machine.origin = s.machine.origin := by
  unfold reactAll
  induction typed generalizing s with
  | nil => rfl
  | cons line typed ih => rw [List.foldl_cons, ih, origin_react]

/-- Whatever a host has done to a machine, a reset makes it the machine that was switched on, to
which everything happens again in the same way. In a session, whatever was typed, `reset` and every
line that loads a program leave such a machine with the last program in it, and a line that fails to
load one changes nothing. -/
theorem reset_and_reload_start_afresh (seed : Int) (wrap : Bool) (actions : List Machine.HostAction) :
    let fresh := Machine.powerOn seed wrap
    let m := fresh.actAll actions
    m.reset.machine = m.resetInPlace ∧
    m.resetInPlace = fresh ∧
    (∀ operations, m.resetInPlace.performAll operations = fresh.performAll operations ∧
      m.resetInPlace.eventsOfAll operations = fresh.eventsOfAll operations) ∧
    ∀ (image : Option (Array UInt8)) (typed : List (Directory × List Char)),
      let s := (Session.ofMachine m image).reactAll typed
      s.image = lastImage image typed ∧
      ∀ files line,
        let s' := (s.react files line).session
        (∀ argument, Line.parse line = .command .reset argument →
          s'.machine = .powerOnWith seed wrap (lastImage image typed)) ∧
        (∀ loaded, imageTyped? files line = some loaded →
          s'.machine = .powerOnWith seed wrap (some loaded) ∧ s'.image = some loaded) ∧
        ∀ verb argument, verb = .load ∨ verb = .assemble →
          Line.parse line = .command verb argument → imageTyped? files line = none → s' = s := by
  intro fresh m
  have undone : m.resetInPlace = fresh := Machine.resetInPlace_actAll seed wrap actions
  refine ⟨?_, undone, fun operations => ?_, fun image typed => ?_⟩
  · exact m.resetInPlace_eq.symm
  · rw [undone]
    exact ⟨rfl, rfl⟩
  · intro s
    have last : s.image = lastImage image typed := image_reactAll _ typed
    have origin : s.machine.origin = (seed, wrap) :=
      (origin_reactAll _ typed).trans (Machine.origin_actAll fresh actions)
    refine ⟨last, fun files line => ⟨fun argument reset => ?_, fun loaded loads => ?_, ?_⟩⟩
    · rw [session_react_of_reset reset, last]
      exact powerOnWith_of_origin origin _
    · rw [session_react_of_image loads]
      exact ⟨powerOnWith_of_origin origin (some loaded), rfl⟩
    · intro verb argument loading command fails
      rw [session_react_of_loading loading command, fails]
      rfl

end

/-- A folder with a program that clears the screen. -/
def oneProgram : Directory := .ofFiles [(['p'], #[0x00, 0xE0])]

/-- The program is loaded, and another that is not there is not. -/
def oneLoading : List (Directory × List Char) :=
  [(oneProgram, "load p".toList), (.empty, "fb fill".toList), (.empty, "load q".toList)]

/-- A machine that panics past its memory, and a session that goes on with it. -/
theorem reset_and_reload_start_afresh_after_panic :
    let _ : Heap := .unlimited
    let m := (Machine.powerOn 7 true).actAll [.fill, .storePc 0xFFF, .operation .step]
    let s := (Session.ofMachine m none).reactAll oneLoading
    m.resetInPlace = Machine.powerOn 7 true ∧
    (s.react .empty "reset".toList).session.machine =
      .powerOnWith 7 true (some #[0x00, 0xE0]) ∧
    (s.react .empty "load q".toList).session = s := by
  intro _ m s
  obtain ⟨-, undone, -, sessions⟩ :=
    reset_and_reload_start_afresh 7 true [.fill, .storePc 0xFFF, .operation .step]
  obtain ⟨-, lines⟩ := sessions none oneLoading
  have last : lastImage none oneLoading = some #[0x00, 0xE0] := by decide
  refine ⟨undone, ?_, ?_⟩
  · rw [← last]
    exact (lines .empty "reset".toList).1 [] (by decide)
  · exact (lines .empty "load q".toList).2.2 .load ['q'] (.inl rfl) (by decide) (by decide)

end Session

end Monitor

end ChipEight
