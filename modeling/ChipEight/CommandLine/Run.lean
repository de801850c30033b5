import ChipEight.Assembly.Program
import ChipEight.CommandLine.Report
import ChipEight.Monitor.Reaction

/-!
# The program

From arguments, files and typed lines to a report. `start` does what the arguments ask for; unless
that is all, `converse` goes on with the monitor until it ends or the lines do.
-/

namespace ChipEight.CommandLine

open Text Monitor

/-! ### Before the monitor -/

inductive Beginning where
  | finished (report : Report)
  | conversation (tracing : Bool) (transcript : List Entry) (session : Session)

def endingOfAssembly : Assembly.Error → Ending
  | .line number cause => .rejected number cause
  | error => .failed (.command (.assembly error))

def assembleFile [Heap] (options : Options) (files : Directory) (source target : List Char) :
    Report :=
  let report (transcript : List Entry) (ending : Ending) (files : Directory) : Report :=
    ⟨options.trace, transcript, ending, files⟩
  match files.readText source with
  | .error error => report [] (.failed (.ofTextFile error)) files
  | .ok text =>
    match Assembly.assemble text 0x200 with
    | .error error => report [] (endingOfAssembly error) files
    | .ok program =>
      let listing := if options.listing then program.listing.map .line else []
      let image := program.image
      match files.write target image with
      | .error error => report listing (.failed (.file error)) files
      | .ok written =>
        let summary :=
          s!"Assembled {String.ofList source} → {String.ofList target} ({image.size} bytes)"
        report (listing ++ [.line summary]) .done written

/-- The image that the options name, if they name one. An empty path names none. -/
def imageOf [Heap] (options : Options) (files : Directory) :
    Except Ending (Option (Array UInt8)) :=
  match options.asm.getD [], options.image.getD [] with
  | [], [] => .ok none
  | [], path => ((files.read path).map some).mapError fun error => .failed (.file error)
  | path, _ => do
    let text ← (files.readText path).mapError fun error => .failed (.ofTextFile error)
    let image ← (Assembly.assembleImage text).mapError endingOfAssembly
    return some image

/-- The seed, which is `entropy` unless the options give one. -/
def seedOf (options : Options) (entropy : Int) : Except Ending Int :=
  match options.seed with
  | .entropy => .ok entropy
  | .number seed => .ok seed
  | .missing => .error (.failed .missingSeed)

def prepare (options : Options) (seed : Int) (image : Option (Array UInt8)) :
    Machine × List Entry :=
  let m := Machine.powerOn seed options.wrap
  match image with
  | none => (m, [])
  | some bytes =>
    let loaded := m.load bytes
    (loaded.machine, Entry.ofEvents loaded.events ++
      [.line s!"Loaded {Memory.storedSize bytes} bytes at 0x200"])

def runProgram (limit : Int) (m : Machine) : Machine × List Entry :=
  let outcome := m.run limit.toNat
  let ran := outcome.machine
  let summary := match outcome.result with
    | .ok steps => s!"Ran {steps} instructions; state={ran.state.text}"
    | .error fault => Session.faultText fault
  (ran, Entry.ofEvents outcome.events ++ [.line summary, .line ran.screen.plainPicture])

def ingredients [Heap] (options : Options) (files : Directory) (entropy : Int) :
    Except Ending (Int × Option (Array UInt8)) := do
  let seed ← seedOf options entropy
  let image ← imageOf options files
  return (seed, image)

def runIfAsked (options : Options) (m : Machine) : Except Ending (Machine × List Entry) :=
  match options.run, options.maxSteps with
  | false, _ => .ok (m, [])
  | true, some limit => .ok (runProgram limit m)
  | true, none => .error (.failed .missingLimit)

/-- What is done before the monitor starts, if it does. `entropy` seeds a machine without a seed. -/
def startWith [Heap] (options : Options) (files : Directory) (entropy : Int) : Beginning :=
  let report (transcript : List Entry) (ending : Ending) : Beginning :=
    .finished ⟨options.trace, transcript, ending, files⟩
  match options.assemble with
  | some (source, target) => .finished (assembleFile options files source target)
  | none =>
    match ingredients options files entropy with
    | .error ending => report [] ending
    | .ok (seed, image) =>
      let (m, loading) := prepare options seed image
      if options.disasm then
        match Disassembly.rowsBetween m.memory.toArray 0x200 Disassembly.lastWord with
        | .ok rows => report (loading ++ rows.map fun row => .line row.line) .done
        | .error error => report loading (.failed (.command (.index error)))
      else
        match runIfAsked options m with
        | .error ending => report loading ending
        | .ok (m, running) =>
          .conversation options.trace (loading ++ running) (.ofMachine m image)

def start [Heap] (arguments : List (List Char)) (files : Directory) (entropy : Int) : Beginning :=
  match parse arguments with
  | .error .help => .finished ⟨false, [], .help, files⟩
  | .error (.usage error) => .finished ⟨false, [], .usage error, files⟩
  | .ok options => startWith options files entropy

/-! ### The monitor -/

def introduction : String :=
  "\n" ++
  "╔══════════════════════════════════════════════════════════╗\n" ++
  "║            CHIP-8 Monitor  v1.0                          ║\n" ++
  "║   Type 'help' for commands.  'quit' to exit.             ║\n" ++
  "╚══════════════════════════════════════════════════════════╝\n" ++
  "\n"

def prompt : String := "C8> "

/-- The line that the end of the input stands for. -/
def endLine : List Char := ['E', 'O', 'F']

/-- The transcript of a session with the lines typed, and how it ends. -/
def converse [Heap] (files : Directory) (s : Session) : List (List Char) → List Entry × Ending
  | [] =>
    let reaction := s.react files endLine
    (.text prompt :: reaction.transcript, .done)
  | line :: lines =>
    let reaction := s.react files line
    let said := .text prompt :: reaction.transcript
    match reaction.result with
    | .error error => (said, .failed (.command error))
    | .ok true => (said, .done)
    | .ok false =>
      let (rest, ending) := converse files reaction.session lines
      (said ++ rest, ending)

/-- The lines of an input text; a line feed at its end begins no line. -/
def inputLines (input : List Char) : List (List Char) :=
  let lines := input.splitOn '\n'
  if lines.getLast? = some [] then lines.dropLast else lines

def run [Heap] (arguments : List (List Char)) (files : Directory) (entropy : Int)
    (input : List Char) : Report :=
  match start arguments files entropy with
  | .finished report => report
  | .conversation tracing transcript session =>
    let (rest, ending) := converse files session (inputLines input)
    ⟨tracing, transcript ++ .text introduction :: rest, ending, files⟩

end ChipEight.CommandLine
