import ChipEight.Proofs.Monitor.InPlace

/-!
# Inspection

The lines that only look at a session leave it as it is, whatever stands in them and also when they
raise something (`session_react_of_inspects`). Wherever they are put in among other lines, those
come to the same reactions and the same session (`inspection_is_invisible`).
-/

namespace ChipEight.Monitor

open Text

/-- Whether a line looks at a session: one of the commands that show something, a `bp` with nothing
after it, an empty line, or one that begins with no command. -/
def Line.inspects : Line → Bool
  | .empty | .unknown _ => true
  | .command verb argument =>
    match verb with
    | .registers | .stack | .dump | .disassemble | .screen | .status | .help => true
    | .breakpoint => (trim argument).isEmpty
    | _ => false

namespace Session

variable {s : Session} {files : Directory} {argument : List Char}

theorem after_of_ok {α : Type} {x : Except CommandError α} {f : α → Effect}
    (each : ∀ a, s.after (f a) = s) : s.after (x >>= f) = s :=
  after_bind (P := (· = s)) rfl each

theorem after_dump : s.after (s.dump argument) = s :=
  after_of_ok fun _ => after_of_ok fun _ => after_of_ok fun _ => after_of_ok fun _ => rfl

theorem after_disassemble : s.after (s.disassemble argument) = s := by
  refine after_of_ok fun words => ?_
  cases words with
  | nil => exact after_of_ok fun _ => rfl
  | cons word rest => exact after_of_ok fun _ => after_of_ok fun _ => after_of_ok fun _ => rfl

theorem after_performLine [Heap] {line : Line} (inspects : line.inspects = true) :
    s.after (s.performLine files line) = s := by
  cases line with
  | empty | unknown => rfl
  | command verb argument =>
    cases verb with
    | dump => exact after_dump
    | disassemble => exact after_disassemble
    | breakpoint =>
      have blank : (trim argument).isEmpty = true := inspects
      show s.after (s.breakpoint argument) = s
      rw [breakpoint, if_pos blank]
      rfl
    | registers | stack | screen | status | help => rfl
    | load | assemble | reset | start | stop | step | run | proceed | clearBreakpoint
    | framebuffer | quit | endOfInput => cases inspects

theorem session_react_of_inspects [Heap] {line : List Char}
    (inspects : (Line.parse line).inspects = true) : (s.react files line).session = s := by
  rw [session_react, after_performLine inspects]

end Session

/-- The console after a line, also if it has raised something. -/
def Console.after [Heap] (console : Console) (files : Directory) (line : List Char) : Console :=
  match (Command.ofLine files line).run console with
  | .ok _ left => left
  | .error _ left => left

theorem session_after [Heap] (console : Console) (files : Directory) (line : List Char) :
    (console.after files line).session = (console.session.react files line).session := by
  obtain ⟨s, said⟩ := console
  rw [Session.session_react, Console.after, Command.run_ofLine]
  cases s.performLine files (Line.parse line) <;> rfl

/-- A line as it is typed, with the files that are there then. -/
structure Typed where
  files : Directory
  line : List Char
  /-- Whether the line has been put in among the others. -/
  inserted : Bool

def originals (script : List Typed) : List Typed := script.filter (!·.inserted)

namespace Session

section

variable [Heap]

/-- The reactions to the lines of a script that have not been put in. -/
def answers (s : Session) : List Typed → List Reaction
  | [] => []
  | t :: rest =>
    let reaction := s.react t.files t.line
    if t.inserted then reaction.session.answers rest else reaction :: reaction.session.answers rest

def afterScript (s : Session) (script : List Typed) : Session :=
  s.reactAll (script.map fun t => (t.files, t.line))

theorem afterScript_cons (s : Session) (t : Typed) (rest : List Typed) :
    s.afterScript (t :: rest) = (s.react t.files t.line).session.afterScript rest := rfl

/-- Lines that look at the session may be put in anywhere in a script, and may raise something: the
other lines have the same output and the same results, and the session is the same at the end. Each
such line leaves the session also when it is carried out write by write. -/
theorem inspection_is_invisible (s : Session) (script : List Typed)
    (inspections : ∀ t ∈ script, t.inserted = true → (Line.parse t.line).inspects = true) :
    s.answers script = s.answers (originals script) ∧
    s.afterScript script = s.afterScript (originals script) ∧
    ∀ t ∈ script, t.inserted = true → ∀ console : Console,
      (console.after t.files t.line).session = console.session := by
  refine and_assoc.mp ⟨?_, fun t typed put_in console => ?_⟩
  · -- Before each line the session is the same with and without the lines that have been put in.
    unfold originals
    induction script generalizing s with
    | nil => exact ⟨rfl, rfl⟩
    | cons t rest ih =>
      have same s := ih s fun t mem => inspections t (List.mem_cons_of_mem _ mem)
      cases put_in : t.inserted with
      | true =>
        have inspects := inspections t List.mem_cons_self put_in
        have kept : (s.react t.files t.line).session = s := session_react_of_inspects inspects
        rw [List.filter_cons_of_neg (by simp [put_in]), answers, if_pos put_in, afterScript_cons,
          kept]
        exact same s
      | false =>
        obtain ⟨answered, left⟩ := same (s.react t.files t.line).session
        rw [List.filter_cons_of_pos (by simp [put_in]), answers, answers, put_in, afterScript_cons,
          afterScript_cons]
        exact ⟨congrArg (_ :: ·) answered, left⟩
  · rw [session_after, session_react_of_inspects (inspections t typed put_in)]

end

/-- Two original lines, and lines of several kinds around them, some of which raise something. -/
def lookingAround : List Typed :=
  [⟨.empty, "dump zz".toList, true⟩, ⟨.empty, "bp 0x200".toList, false⟩,
    ⟨.empty, "bp ".toList, true⟩, ⟨.empty, [], true⟩, ⟨.empty, "step".toList, false⟩,
    ⟨.empty, "disasm 'pc".toList, true⟩, ⟨.empty, "steps".toList, true⟩]

theorem inspection_is_invisible_in_looking_around :
    let _ : Heap := .unlimited
    let s := ofMachine Machine.lostReturn none
    (∃ error, (s.react .empty "dump zz".toList).result = .error error) ∧
    s.answers lookingAround =
      s.answers [⟨.empty, "bp 0x200".toList, false⟩, ⟨.empty, "step".toList, false⟩] ∧
    s.afterScript lookingAround =
      s.afterScript [⟨.empty, "bp 0x200".toList, false⟩, ⟨.empty, "step".toList, false⟩] := by
  intro _ s
  obtain ⟨answered, left, -⟩ := inspection_is_invisible s lookingAround (by decide)
  have parsed : Line.parse "dump zz".toList = .command .dump ['z', 'z'] := by decide
  obtain ⟨error, raised⟩ : ∃ error, s.dump ['z', 'z'] = .error error := ⟨_, rfl⟩
  have raises : s.performLine .empty (Line.parse "dump zz".toList) = .error error := by
    rw [parsed]
    exact raised
  exact ⟨⟨error, by rw [react_error raises]⟩, answered, left⟩

end Session

end ChipEight.Monitor
