import ChipEight.Text.Characters
import ChipEight.Text.Display

/-!
# The monitor's commands

The names of the commands, what `help` says about each, and how a line is taken apart into a command
and its argument.
-/

namespace ChipEight.Monitor

open Text

inductive Verb where
  | assemble | breakpoint | clearBreakpoint | proceed | disassemble | dump | framebuffer | help
  | load | quit | registers | reset | run | screen | stack | start | status | step | stop
  /-- What the end of the input stands for. -/
  | endOfInput
  deriving DecidableEq, Repr

namespace Verb

/-- All names in the order of their characters. -/
def named : List (String × Verb) :=
  [("EOF", endOfInput), ("asm", assemble), ("bp", breakpoint), ("bpd", clearBreakpoint),
    ("c", proceed), ("continue", proceed), ("disasm", disassemble), ("dump", dump), ("exit", quit),
    ("fb", framebuffer), ("help", help), ("load", load), ("q", quit), ("quit", quit),
    ("regs", registers), ("reset", reset), ("run", run), ("screen", screen), ("stack", stack),
    ("start", start), ("status", status), ("step", step), ("stop", stop)]

def ofName? (name : List Char) : Option Verb :=
  (named.find? fun entry => entry.1.toList == name).map (·.2)

def description? : Verb → Option String
  | load => some "Load a program image: load <file>\n        Resets the machine first."
  | assemble => some <| "Assemble source and load: asm <file.asm>\n" ++
    "        Or inline:  asm -e \"ld v0, 5; end\" "
  | reset => some "Reset the machine and reload the current program."
  | start => some "Put the machine in the running state."
  | stop => some "Halt the machine."
  | step => some "Step N instructions: step [count]"
  | run => some "Run until halt/breakpoint: run [max_steps]"
  | proceed => some "Alias for 'run'."
  | breakpoint => some "Set breakpoint: bp <address>"
  | clearBreakpoint => some "Delete breakpoint: bpd <address|all>"
  | registers => some "Show registers."
  | stack => some "Show the return-address stack, top first."
  | dump => some <| "Hex dump memory: dump [address] [count]\n" ++
    "        Defaults to 0x200, 128 bytes."
  | disassemble => some <| "Disassemble: disasm [address] [count]\n" ++
    "        With no arguments, lists the program from 0x200 up to END."
  | screen => some "Print the framebuffer as text."
  | framebuffer => some "Framebuffer debug aids: fb clear|fill|random"
  | status => some "Show run state and counters."
  | quit => some "Exit the monitor."
  | help => some "List available commands with \"help\" or detailed help with \"help cmd\"."
  | endOfInput => none

end Verb

/-! ### Help -/

def helpWidth : Nat := 79

def topicLines (heading : String) (names : List String) : List String :=
  if names.isEmpty then []
  else [heading, String.ofList (List.replicate heading.length '=')] ++
    Columns.lines helpWidth names ++ [""]

/-- The names of the commands that have a description, or of those that have none. -/
def namesDescribed (described : Bool) : List String :=
  (Verb.named.filter fun entry => entry.2.description?.isSome == described).map (·.1)

def overview : List String :=
  [""] ++ topicLines "Documented commands (type help <topic>):" (namesDescribed true) ++
    topicLines "Undocumented commands:" (namesDescribed false)

def helpLines (name : List Char) : List String :=
  if name.isEmpty then overview
  else match (Verb.ofName? name).bind Verb.description? with
    | some description => [description]
    | none => ["*** No help on " ++ String.ofList name]

/-! ### Lines -/

inductive Line where
  | empty
  | command (verb : Verb) (argument : List Char)
  /-- No command begins the line; its first word is shown to the user. -/
  | unknown (word : List Char)
  deriving DecidableEq, Repr

def isNameChar (c : Char) : Bool := c.isAlphanum || c = '_'

/-- Takes apart a line that is not empty and has no blanks at its ends. -/
def Line.ofTrimmed (line : List Char) : Line :=
  let name := line.takeWhile isNameChar
  match Verb.ofName? name with
  | some verb => .command verb (trim (line.drop name.length))
  | none => .unknown (splitWord line).1

/-- Takes a line apart. A question mark at the beginning asks for help; an exclamation mark begins
no command. -/
def Line.parse (line : List Char) : Line :=
  match trim line with
  | [] => .empty
  | '?' :: topic => .command .help (trim topic)
  | '!' :: rest => .unknown (splitWord ('!' :: rest)).1
  | cs => .ofTrimmed cs

end ChipEight.Monitor
