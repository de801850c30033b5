import ChipEight.Monitor.Session

/-!
# Loading

The commands that put a program into the machine. Each resets the machine first.
-/

namespace ChipEight.Monitor.Session

open Text

/-- Resets the machine and loads `image` into it, which becomes the session's image. -/
def install (s : Session) (image : Array UInt8) (origin : String) : Session × List Entry :=
  let cleared := s.machine.reset
  let loaded := cleared.machine.load image
  ({ s with machine := loaded.machine, image := some image },
    Entry.ofEvents (cleared.events ++ loaded.events) ++
      [.line s!"Loaded {Memory.storedSize image} bytes from {origin} at 0x200"])

def pathText (path : List Char) : String := "'" ++ String.ofList path ++ "'"

def load (files : Directory) (s : Session) (argument : List Char) : Effect := do
  match ← argumentWords argument with
  | [] => s.say ["Usage: load <file>"]
  | path :: _ =>
    match files.read path with
    | .ok image => return s.install image (pathText path)
    | .error .nullCharacter => throw .nullCharacter
    | .error error => s.say [s!"Error: {error.message}"]

def installSource [Heap] (s : Session) (source : List Char) (origin : String) : Effect :=
  match Assembly.assembleImage source with
  | .ok image => .ok (s.install image origin)
  | .error (.line number cause) =>
    s.say [s!"Assembly error: {(Assembly.Error.line number cause).message}"]
  | .error error => .error (.assembly error)

/-- A line feed for every semicolon, as an argument separates its lines. -/
def inlineSource (word : List Char) : List Char := word.map fun c => if c = ';' then '\n' else c

def assembleAndLoad [Heap] (files : Directory) (s : Session) (argument : List Char) : Effect := do
  match ← argumentWords argument with
  | [] => s.say ["Usage: asm <file.asm>  OR  asm -e \"code\""]
  | ['-', 'e'] :: rest => s.installSource (inlineSource (rest.headD [])) "inline source"
  | path :: _ =>
    match files.readText path with
    | .ok source => s.installSource source (pathText path)
    | .error (.encoding error) => throw (.encoding error)
    | .error (.file .nullCharacter) => throw .nullCharacter
    | .error (.file error) => s.say [s!"Error reading {pathText path}: {error.message}"]

def reset (s : Session) : Effect :=
  let cleared := s.machine.reset
  let (machine, events) := match s.image with
    | some image =>
      let loaded := cleared.machine.load image
      (loaded.machine, cleared.events ++ loaded.events)
    | none => (cleared.machine, cleared.events)
  .ok ({ s with machine }, Entry.ofEvents events ++ [.line "Machine reset."])

end ChipEight.Monitor.Session
