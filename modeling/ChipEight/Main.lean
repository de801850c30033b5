import ChipEight.CommandLine.Run

/-!
# The executable

Reads the files that arguments and commands name, lets `CommandLine` and `Monitor` decide, prints
what they say, and writes the files that have changed.
-/

namespace ChipEight.Executable

open CommandLine Monitor

def program : String := "chip-eight"

def look (files : Directory) (p : Place) : IO Directory := do
  let path := String.ofList p.text
  try
    if ← (← IO.FS.realPath path).isDir then
      return { files with folders := p :: files.folders }
    let bytes ← IO.FS.readBinFile path
    return files.insert p bytes.data
  catch _ => return files

def placesOn (path : String) : List Place :=
  (pathParts path.toList).foldl (fun places part =>
    (((places.head?).getD (Place.startOf path.toList)).go part) :: places) []

def lookAll (paths : List String) : IO Directory :=
  (paths.flatMap placesOn).eraseDups.foldlM look .empty

/-- The arguments, and what stands after an equals sign in them. -/
def namedInArguments (arguments : List String) : List String :=
  arguments.flatMap fun argument =>
    match splitEquals argument.toList with
    | (_, some value) => [argument, String.ofList value]
    | (_, none) => [argument]

def namedInLine (line : String) : List String :=
  match Text.ShellWords.split line.toList with
  | .ok words => words.map String.ofList
  | .error _ => []

def display (tracing : Bool) (transcript : List Entry) : IO Unit := do
  IO.print (Transcript.output tracing transcript)
  (← IO.getStdout).flush
  IO.eprint (Transcript.complaints tracing transcript)

def conclude (ending : Ending) : IO UInt32 := do
  IO.eprint (ending.complaint program)
  match ending with
  | .failed failure => IO.eprintln s!"{program}: {failure.message}"
  | _ => pure ()
  return ending.exitCode.toUInt32

def store (before after : Directory) : IO Unit :=
  after.files.forM fun (p, bytes) => do
    if before.find? p ≠ some bytes then
      IO.FS.writeBinFile (String.ofList p.text) ⟨bytes⟩

partial def converseLive [Heap] (tracing : Bool) (session : Session) : IO UInt32 := do
  IO.print prompt
  (← IO.getStdout).flush
  let typed ← (← IO.getStdin).getLine
  let line := if typed.isEmpty then endLine else typed.toList.filter (· ≠ '\n')
  let files ← lookAll (namedInLine (String.ofList line))
  let reaction := session.react files line
  display tracing reaction.transcript
  match reaction.result with
  | .error error => conclude (.failed (.command error))
  | .ok true => conclude .done
  | .ok false => converseLive tracing reaction.session

def runWith [Heap] (arguments : List String) : IO UInt32 := do
  let files ← lookAll (namedInArguments arguments)
  let entropy := (← IO.getRandomBytes 8).data.foldl (fun (n : Nat) b => n * 256 + b.toNat) 0
  match start (arguments.map String.toList) files entropy with
  | .finished report =>
    display report.tracing report.transcript
    store files report.files
    conclude report.ending
  | .conversation tracing transcript session =>
    display tracing (transcript ++ [.text introduction])
    converseLive tracing session

end ChipEight.Executable

def main (arguments : List String) : IO UInt32 :=
  @ChipEight.Executable.runWith .unlimited arguments
