import ChipEight.Text.Display

/-!
# Reading UTF-8

Strict decoding of bytes. A fault names the bytes that cannot be read: a byte that starts nothing,
the bytes before one that does not continue them, or what is left when the data ends early.
-/

namespace ChipEight.Text.Utf8

inductive Reason where
  | startByte
  | continuationByte
  | endOfData
  deriving DecidableEq, Repr

def Reason.text : Reason → String
  | .startByte => "invalid start byte"
  | .continuationByte => "invalid continuation byte"
  | .endOfData => "unexpected end of data"

/-- The bytes at `position` and after it that cannot be read. -/
structure Error where
  position : Nat
  bytes : List UInt8
  reason : Reason
  deriving DecidableEq, Repr

def Error.message (e : Error) : String :=
  let what := match e.bytes with
    | [b] => s!"byte 0x{byteHex b} in position {e.position}"
    | bytes => s!"bytes in position {e.position}-{e.position + bytes.length - 1}"
  s!"'utf-8' codec can't decode {what}: {e.reason.text}"

/-- The least and greatest second byte that may follow a lead byte, and how many bytes follow it. -/
structure Lead where
  follow : Nat
  low : Nat
  high : Nat

/-- The shape of the sequence that `b` begins. Overlong forms, surrogates and numbers past the last
code point are kept out by the range of the second byte. -/
def lead? (b : UInt8) : Option Lead :=
  let n := b.toNat
  if n < 0x80 then some ⟨0, 0, 0⟩
  else if n < 0xC2 then none
  else if n < 0xE0 then some ⟨1, 0x80, 0xBF⟩
  else if n = 0xE0 then some ⟨2, 0xA0, 0xBF⟩
  else if n = 0xED then some ⟨2, 0x80, 0x9F⟩
  else if n < 0xF0 then some ⟨2, 0x80, 0xBF⟩
  else if n = 0xF0 then some ⟨3, 0x90, 0xBF⟩
  else if n = 0xF4 then some ⟨3, 0x80, 0x8F⟩
  else if n < 0xF4 then some ⟨3, 0x80, 0xBF⟩
  else none

def leadBits (b : UInt8) (follow : Nat) : Nat :=
  match follow with
  | 0 => b.toNat
  | 1 => b.toNat % 0x20
  | 2 => b.toNat % 0x10
  | _ => b.toNat % 0x08

/-- How a sequence goes on after its lead byte. -/
inductive Tail where
  | complete (code : Nat) (rest : List UInt8)
  | broken (reason : Reason) (good : List UInt8)

/-- Reads `follow` more bytes of a sequence, the first of them between `low` and `high`. -/
def readTail (low high : Nat) : Nat → Nat → List UInt8 → Tail
  | 0, code, rest => .complete code rest
  | _ + 1, _, [] => .broken .endOfData []
  | follow + 1, code, b :: rest =>
    if low ≤ b.toNat && b.toNat ≤ high then
      match readTail 0x80 0xBF follow (code * 0x40 + b.toNat % 0x40) rest with
      | .complete code rest => .complete code rest
      | .broken reason good => .broken reason (b :: good)
    else .broken .continuationByte []

/-- The bytes that follow a whole sequence are part of those that followed its lead byte. -/
theorem length_of_readTail {low high follow code : Nat} {bs rest : List UInt8} {c : Nat}
    (h : readTail low high follow code bs = .complete c rest) : rest.length ≤ bs.length := by
  fun_induction readTail low high follow code bs generalizing c rest with
  | case1 => cases h; exact Nat.le_refl _
  | case2 => cases h
  | case3 low high follow code b bs hb c' r' hr ih =>
    cases h
    exact Nat.le_succ_of_le (ih hr)
  | case4 => cases h
  | case5 => cases h

/-- Decodes what follows the first `position` bytes. -/
def decodeFrom (position : Nat) : List UInt8 → Except Error (List Char)
  | [] => .ok []
  | b :: bs =>
    match lead? b with
    | none => .error ⟨position, [b], .startByte⟩
    | some lead =>
      match _h : readTail lead.low lead.high lead.follow (leadBits b lead.follow) bs with
      | .broken reason good => .error ⟨position, b :: good, reason⟩
      | .complete code rest =>
        (decodeFrom (position + 1 + lead.follow) rest).map (Char.ofNat code :: ·)
  termination_by bs => bs.length
  decreasing_by
    have := length_of_readTail _h
    simp only [List.length_cons]
    omega

def decode (bytes : Array UInt8) : Except Error (List Char) := decodeFrom 0 bytes.toList

end ChipEight.Text.Utf8
