import ChipEight.Instruction.Encoding

/-!
# Faults and events

A fault is what stops a machine for good: a cause, and the address of the instruction at fault. An
event is what a machine reports while it works, with a severity and a text; halts and panics are
also what a host is told about.
-/

namespace ChipEight

inductive Transfer where
  | jump
  | call
  | jumpOffset
  deriving DecidableEq, Repr

/-- A transfer as a message writes it, before the target. -/
def Transfer.text : Transfer → String
  | .jump => "JP"
  | .call => "CALL"
  | .jumpOffset => "JP V0,"

inductive Fault.Cause where
  /-- No whole word is left at the program counter. -/
  | fetchPastEnd
  /-- The destination is the flag register. -/
  | reservedRegister (instruction : Instruction)
  /-- The target lies below the program space or past the end. -/
  | illegalTarget (transfer : Transfer) (target : Nat)
  | stackOverflow (target : Address)
  | stackUnderflow
  | invalidOpcode (word : UInt16)
  deriving DecidableEq, Repr

structure Fault where
  pc : UInt16
  cause : Fault.Cause
  deriving DecidableEq, Repr

open Text

def Fault.message (fault : Fault) : String :=
  match fault.cause with
  | .fetchPastEnd => s!"fetch past end of memory at {addressHex fault.pc.toNat}"
  | .reservedRegister i => s!"{i.text}: VF register is reserved, cannot perform write"
  | .illegalTarget transfer target =>
    s!"{transfer.text} {addressHex target}: illegal jump to reserved address"
  | .stackOverflow target => s!"CALL {addressHex target.val}: call stack exceeded"
  | .stackUnderflow => "RET: empty call stack"
  | .invalidOpcode word => s!"invalid opcode {prefixedHex 6 word.toNat}"

/-! ### Events -/

inductive HaltReason where
  | endOfProgram
  | stopped
  deriving DecidableEq, Repr

def HaltReason.text : HaltReason → String
  | .endOfProgram => "end of program"
  | .stopped => "stopped"

inductive Event where
  | reset
  | loaded (size : Nat)
  /-- The instruction at `pc` is about to take effect. -/
  | executing (pc : UInt16) (instruction : Instruction)
  | halted (pc : UInt16) (reason : HaltReason)
  | panicked (fault : Fault)
  deriving DecidableEq, Repr

inductive Severity where
  | debug
  | info
  | error
  deriving DecidableEq, Repr

def Severity.text : Severity → String
  | .debug => "DEBUG"
  | .info => "INFO"
  | .error => "ERROR"

namespace Event

def severity : Event → Severity
  | reset => .info
  | loaded _ => .debug
  | executing .. => .debug
  | halted .. => .info
  | panicked _ => .error

def text : Event → String
  | reset => "[RESET] machine reinitialized"
  | loaded size => s!"[LOAD_ROM] {size} bytes loaded at 0x200"
  | executing pc i => s!"[EXECUTE] {addressHex pc.toNat}: {i.text}"
  | halted pc reason => s!"[HALT] {addressHex pc.toNat}: {reason.text}"
  | panicked fault => s!"[EXECUTE] {addressHex fault.pc.toNat}: {fault.message}"

end Event

end ChipEight
