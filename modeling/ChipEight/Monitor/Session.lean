import ChipEight.Assembly.Program
import ChipEight.Directory
import ChipEight.Machine.Execution
import ChipEight.Text.LowerCase
import ChipEight.Text.ShellWords

/-!
# Transcripts and sessions

A transcript is what a conversation puts out, in order: text, and the events of the machine. A
traced conversation shows all events between the text; an untraced one shows only errors, and apart
from the text.

A session is a machine, the image that it was last loaded with, and the breakpoints. A command gives
a session and a transcript, or fails; one that fails has changed nothing and said nothing.
-/

namespace ChipEight

inductive Entry where
  | text (s : String)
  | event (e : Event)
  deriving DecidableEq, Repr

def Entry.line (s : String) : Entry := .text (s ++ "\n")

def Entry.ofEvents (events : List Event) : List Entry := events.map .event

def Event.traceLine (e : Event) : String := s!"[{e.severity.text}]:  {e.text}\n"

def Entry.output (tracing : Bool) : Entry → String
  | .text s => s
  | .event e => if tracing then e.traceLine else ""

def Entry.complaint (tracing : Bool) : Entry → String
  | .text _ => ""
  | .event e => if !tracing && e.severity = .error then e.text ++ "\n" else ""

namespace Transcript

def output (tracing : Bool) (entries : List Entry) : String :=
  entries.foldl (fun s entry => s ++ entry.output tracing) ""

def complaints (tracing : Bool) (entries : List Entry) : String :=
  entries.foldl (fun s entry => s ++ entry.complaint tracing) ""

end Transcript

/-! ### Sessions -/

namespace Monitor

open Text

structure Session where
  machine : Machine
  /-- What `reset` loads again. -/
  image : Option (Array UInt8)
  /-- Ascending, without repetition. -/
  breakpoints : List Int

def Session.ofMachine (machine : Machine) (image : Option (Array UInt8)) : Session :=
  ⟨machine, image, []⟩

inductive CommandError where
  | numeral (error : Numeral.Error)
  | words (error : ShellWords.Error)
  | index (error : IndexError)
  | encoding (error : Utf8.Error)
  | nullCharacter
  /-- An assembly error that is not about a line. -/
  | assembly (error : Assembly.Error)
  deriving DecidableEq, Repr

def CommandError.message : CommandError → String
  | .numeral error => error.message
  | .words error => error.message
  | .index error => error.message
  | .encoding error => error.message
  | .nullCharacter => FileError.nullCharacter.message
  | .assembly error => error.message

/-- What a command does: a session and a transcript, or an error. -/
abbrev Effect := Except CommandError (Session × List Entry)

namespace Session

def say (s : Session) (lines : List String) : Effect := .ok (s, lines.map .line)

def argumentWords (argument : List Char) : Except CommandError (List (List Char)) :=
  (ShellWords.split argument).mapError .words

def number (word : List Char) : Except CommandError Int :=
  (Numeral.parse .byPrefix (trim word)).mapError .numeral

/-- The number that an argument spells, or `otherwise` if it is blank. -/
def numberOr (otherwise : Int) (argument : List Char) : Except CommandError Int :=
  if (trim argument).isEmpty then .ok otherwise else number argument

/-- The address that a word spells: a number, or one of two registers by name. -/
def address (s : Session) (word : List Char) : Except CommandError Int :=
  let word := lower (trim word)
  if word = ['p', 'c'] then .ok s.machine.pc.toNat
  else if word = ['i'] then .ok s.machine.index.toNat
  else (Numeral.parse .byPrefix word).mapError .numeral

def haltText (m : Machine) : String :=
  match m.state with
  | .panicked fault => s!"Machine panicked: {fault.message}"
  | _ => s!"Machine halted at {addressHex m.pc.toNat}"

def faultText (fault : Fault) : String :=
  s!"Fatal at {addressHex fault.pc.toNat}: {fault.message}"

end Session

end Monitor

end ChipEight
