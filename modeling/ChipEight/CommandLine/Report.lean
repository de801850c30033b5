import ChipEight.CommandLine.Arguments
import ChipEight.Monitor.Session

/-!
# Reports

What a command line comes to: a transcript, an ending with its exit code, and the files afterwards.
-/

namespace ChipEight.CommandLine

open Monitor (CommandError)

inductive Failure where
  | file (error : FileError)
  | encoding (error : Text.Utf8.Error)
  | command (error : CommandError)
  | missingSeed
  | missingLimit
  deriving DecidableEq, Repr

def Failure.message : Failure → String
  | .file error => error.message
  | .encoding error => error.message
  | .command error => error.message
  | .missingSeed =>
    "The only supported seed types are: None,\nint, float, str, bytes, and bytearray."
  | .missingLimit => "'<' not supported between instances of 'int' and 'list'"

def Failure.ofTextFile : TextFileError → Failure
  | .file error => .file error
  | .encoding error => .encoding error

inductive Ending where
  | done
  /-- The options are to be explained, in words that are left to the host. -/
  | help
  | usage (error : UsageError)
  /-- A line of the source cannot be assembled. -/
  | rejected (number : Nat) (cause : Assembly.Cause)
  | failed (failure : Failure)
  deriving DecidableEq, Repr

def Ending.exitCode : Ending → Nat
  | .done | .help => 0
  | .usage _ => 2
  | .rejected .. | .failed _ => 1

/-- What an ending says last among the errors. How the program is called, which is said before it
when the arguments make no sense, is left to the host. -/
def Ending.complaint (program : String) : Ending → String
  | .usage error => s!"{program}: error: {error.message}\n"
  | .rejected number cause =>
    s!"Assembly error: {(Assembly.Error.line number cause).message}\n"
  | .done | .help | .failed _ => ""

structure Report where
  tracing : Bool
  transcript : List Entry
  ending : Ending
  files : Directory

namespace Report

def output (r : Report) : String := Transcript.output r.tracing r.transcript

def complaints (program : String) (r : Report) : String :=
  Transcript.complaints r.tracing r.transcript ++ r.ending.complaint program

end Report

end ChipEight.CommandLine
