import ChipEight.Monitor.Execution
import ChipEight.Monitor.Inspection
import ChipEight.Monitor.Loading
import ChipEight.Monitor.Verb

/-!
# Reactions

`react` gives a session's reaction to a line: what it does, and whether it ends the monitor. An
error leaves the session as it was.
-/

namespace ChipEight.Monitor

open Text

structure Reaction where
  session : Session
  transcript : List Entry
  /-- Whether the monitor ends, unless the command failed. -/
  result : Except CommandError Bool

namespace Session

variable [Heap]

/-- The effect of a command. Leaving the monitor is a matter of the verb alone. -/
def perform (files : Directory) (s : Session) (verb : Verb) (argument : List Char) : Effect :=
  match verb with
  | .load => s.load files argument
  | .assemble => s.assembleAndLoad files argument
  | .reset => s.reset
  | .start => s.start
  | .stop => s.stop
  | .step => s.step argument
  | .run | .proceed => s.run argument
  | .breakpoint => s.breakpoint argument
  | .clearBreakpoint => s.clearBreakpoint argument
  | .registers => s.registers
  | .stack => s.stack
  | .dump => s.dump argument
  | .disassemble => s.disassemble argument
  | .screen => s.screen
  | .framebuffer => s.framebuffer argument
  | .status => s.status
  | .help => s.say (helpLines argument)
  | .quit => s.say ["Goodbye."]
  | .endOfInput => s.say ["", "Goodbye."]

def performLine (files : Directory) (s : Session) (line : Line) : Effect :=
  match line with
  | .empty => .ok (s, [])
  | .command verb argument => s.perform files verb argument
  | .unknown word =>
    s.say [s!"Unknown command: {String.ofList (quoted word)}. Type 'help' for available commands."]

def endsMonitor : Line → Bool
  | .command .quit _ | .command .endOfInput _ => true
  | _ => false

def react (files : Directory) (s : Session) (line : List Char) : Reaction :=
  let parsed := Line.parse line
  match s.performLine files parsed with
  | .ok (session, transcript) => ⟨session, transcript, .ok (endsMonitor parsed)⟩
  | .error error => ⟨s, [], .error error⟩

end Session

end ChipEight.Monitor
