import ChipEight.Proofs.Monitor.Reload
import ChipEight.Proofs.Text.Hexadecimal

/-!
# Typed addresses

The commands that are aimed at an address read it in one way (`perform_aimed`). Hexadecimal digits
designate the address that they spell if a `0x` stands before them; alone they are taken for decimal
or binary digits, and so designate another address, or none (`typed_addresses`).
-/

namespace ChipEight.Monitor

open Text Text.Numeral

/-- The commands that are aimed at an address. -/
inductive Aimed where
  | breakpoint
  | clearBreakpoint
  | dump
  | disassemble
  deriving DecidableEq, Repr

namespace Aimed

def verb : Aimed → Verb
  | breakpoint => .breakpoint
  | clearBreakpoint => .clearBreakpoint
  | dump => .dump
  | disassemble => .disassemble

/-- The words of an argument, the address coming first. That of a breakpoint is not cut up. -/
def words (aimed : Aimed) (argument : List Char) : Except CommandError (List (List Char)) :=
  match aimed with
  | breakpoint | clearBreakpoint => .ok [argument]
  | dump | disassemble => Session.argumentWords argument

/-- What a command does that is aimed at `a`, the words `rest` standing behind the address. -/
def effect (aimed : Aimed) (s : Session) (a : Int) (rest : List (List Char)) : Effect :=
  let memory := s.machine.memory.toArray
  match aimed with
  | breakpoint =>
    .ok ({ s with breakpoints := Session.insertAddress a s.breakpoints },
      [.line s!"Breakpoint set at {addressHex a}"])
  | clearBreakpoint =>
    .ok ({ s with breakpoints := s.breakpoints.filter (· ≠ a) },
      [.line s!"Breakpoint at {addressHex a} removed."])
  | dump => do
    let count ← Session.wordOr 128 Session.number rest 0
    let lines ← (HexDump.lines memory a count).mapError .index
    s.say lines
  | disassemble => do
    let count ← Session.wordOr 16 Session.number rest 0
    let rows ← (Disassembly.rowsUpTo memory count.toNat a).mapError .index
    s.say (rows.map (Disassembly.Row.markedLine s.machine.pc.toNat))

end Aimed

namespace Session

variable {s : Session} {files : Directory} {aimed : Aimed} {argument word : List Char}
  {rest : List (List Char)} {a : Nat} {digits : List Char}

/-- A command that is aimed at an address reads the address first and then does what it has to. -/
theorem perform_aimed [Heap] (named : aimed.words argument = .ok (word :: rest))
    (said : trim word ≠ []) (single : lower (trim word) ≠ ['a', 'l', 'l']) :
    s.perform files aimed.verb argument = s.address word >>= fun a => aimed.effect s a rest := by
  cases aimed with
  | breakpoint =>
    obtain ⟨rfl, rfl⟩ := List.cons.inj (Except.ok.inj named)
    show s.breakpoint argument = _
    rw [breakpoint, if_neg (by simpa using said)]
    rfl
  | clearBreakpoint =>
    obtain ⟨rfl, rfl⟩ := List.cons.inj (Except.ok.inj named)
    show s.clearBreakpoint argument = _
    rw [clearBreakpoint, if_neg single]
    rfl
  | dump =>
    show s.dump argument = _
    rw [dump, show argumentWords argument = .ok (word :: rest) from named]
    rfl
  | disassemble =>
    show s.disassemble argument = _
    rw [disassemble, show argumentWords argument = .ok (word :: rest) from named]
    rfl

/-! ### Spellings of an address -/

theorem lower_bare (spelled : Spells a digits) : lower digits = lowerAscii digits :=
  lower_eq_lowerAscii spelled.ascii

theorem lower_prefixed (spelled : Spells a digits) {mark : Char} (marked : mark = 'x' ∨ mark = 'X') :
    lower ('0' :: mark :: digits) = '0' :: 'x' :: lowerAscii digits := by
  have ascii : ∀ c ∈ '0' :: mark :: digits, c.toNat < 128 := by
    rw [List.forall_mem_cons, List.forall_mem_cons]
    refine ⟨by decide, ?_, spelled.ascii⟩
    obtain rfl | rfl := marked <;> decide
  rw [lower_eq_lowerAscii ascii]
  obtain rfl | rfl := marked <;> rfl

theorem bare_ne (spelled : Spells a digits) {word : List Char} {c : Char} (mem : c ∈ word)
    (other : ∀ d < 16, Nat.digitChar d ≠ c) : lowerAscii digits ≠ word := by
  rintro rfl
  exact notMem_of_areDigits other (by decide) spelled.areDigits mem

theorem address_prefixed (s : Session) (spelled : Spells a digits) {mark : Char}
    (marked : mark = 'x' ∨ mark = 'X') (typed : trim word = '0' :: mark :: digits) :
    s.address word = .ok (a : Int) := by
  have read : parse .byPrefix ('0' :: 'x' :: lowerAscii digits) = .ok _ :=
    parse_prefixed Radix.noConfusion spelled.areDigits spelled.nonempty_lower
  rw [address, typed, lower_prefixed spelled marked, if_neg (by simp), if_neg (by simp), read,
    spelled.value_lower]
  rfl

theorem address_bare (s : Session) (spelled : Spells a digits) (typed : trim word = digits) :
    s.address word = (parse .byPrefix (lowerAscii digits)).mapError .numeral := by
  have no_pc : lowerAscii digits ≠ ['p', 'c'] := bare_ne spelled List.mem_cons_self (by decide)
  have no_i : lowerAscii digits ≠ ['i'] := bare_ne spelled List.mem_cons_self (by decide)
  rw [address, typed, lower_bare spelled, if_neg no_pc, if_neg no_i]

/-- A typed address designates what its hexadecimal digits spell if `0x` stands before them, in
either case. Digits alone designate the number that they are in base ten, or in base two behind
`0b`; if they are none, the command fails. So they designate what they spell only if there is one of
them and it is a decimal digit, or if all of them are zeros. -/
theorem typed_addresses [Heap] (s : Session) (files : Directory) (aimed : Aimed) {line : List Char}
    (typed : Line.parse line = .command aimed.verb argument)
    (named : aimed.words argument = .ok (word :: rest)) (spelled : Spells a digits) :
    let effect := s.performLine files (Line.parse line)
    (∀ mark, mark = 'x' ∨ mark = 'X' → trim word = '0' :: mark :: digits →
      effect = aimed.effect s a rest) ∧
    (trim word = digits →
      (∀ n : Nat, ReadsBare (lowerAscii digits) n → effect = aimed.effect s n rest) ∧
      ((∀ n, ¬ReadsBare (lowerAscii digits) n) → ∃ error, effect = .error (.numeral error))) ∧
    (ReadsBare (lowerAscii digits) a ↔
      digits.length = 1 ∧ a < 10 ∨ a = 0 ∧ digits.length ≤ digitLimit) := by
  intro effect
  have performed : effect = s.perform files aimed.verb argument := by
    show s.performLine files (Line.parse line) = _
    rw [typed]
    rfl
  refine ⟨?_, ?_, spelled.readsBare_iff⟩
  · intro mark marked text
    have said : trim word ≠ [] := by simp [text]
    have single : lower (trim word) ≠ ['a', 'l', 'l'] := by
      rw [text, lower_prefixed spelled marked]
      simp
    rw [performed, perform_aimed named said single, address_prefixed s spelled marked text]
    rfl
  · intro text
    have said : trim word ≠ [] := by
      rw [text]
      exact spelled.nonempty
    have single : lower (trim word) ≠ ['a', 'l', 'l'] := by
      rw [text, lower_bare spelled]
      exact bare_ne spelled (c := 'l') (by simp) (by decide)
    rw [performed, perform_aimed named said single, address_bare s spelled text]
    constructor
    · intro n reads
      rw [parse_of_readsBare spelled.areDigits spelled.nonempty_lower reads]
      rfl
    · intro unread
      obtain ⟨error, read⟩ :=
        parse_of_not_readsBare spelled.areDigits spelled.nonempty_lower unread
      rw [read]
      exact ⟨error, rfl⟩

/-- A session before anything has been typed. -/
def newSession : Session := .ofMachine (.powerOn 0 false) none

theorem spells_two_hundred : Spells 0x200 ['2', '0', '0'] :=
  ⟨by decide, List.all_eq_true.mp rfl, by decide +kernel⟩

/-- Behind `0x` the digits set one breakpoint, and alone another. -/
theorem typed_addresses_of_two_hundred :
    let _ : Heap := .unlimited
    (Line.parse "bp 0x200".toList = .command .breakpoint "0x200".toList ∧
      Line.parse "bp 200".toList = .command .breakpoint "200".toList ∧
      Spells 0x200 ['2', '0', '0']) ∧
    newSession.performLine .empty (Line.parse "bp 0x200".toList) =
      Aimed.effect .breakpoint newSession 0x200 [] ∧
    newSession.performLine .empty (Line.parse "bp 200".toList) =
      Aimed.effect .breakpoint newSession 200 [] := by
  intro _
  have prefixed : Line.parse "bp 0x200".toList = .command .breakpoint "0x200".toList := by decide
  have bare : Line.parse "bp 200".toList = .command .breakpoint "200".toList := by decide
  obtain ⟨designates, -⟩ :=
    typed_addresses newSession .empty .breakpoint prefixed rfl spells_two_hundred
  obtain ⟨-, alone, -⟩ :=
    typed_addresses newSession .empty .breakpoint bare rfl spells_two_hundred
  have digits : AreDigits 10 ['2', '0', '0'] := by
    intro c mem
    obtain rfl | rfl : c = '2' ∨ c = '0' := by simpa using mem
    · exact ⟨2, by decide, rfl⟩
    · exact ⟨0, by decide, rfl⟩
  have value : Numeral.value 10 ['2', '0', '0'] = 200 := by decide +kernel
  have decimal := ReadsBare.decimal digits (by decide) (by decide) (by decide)
  rw [value] at decimal
  refine ⟨⟨prefixed, bare, spells_two_hundred⟩, ?_, ?_⟩
  · exact designates 'x' (.inl rfl) (by decide)
  · exact (alone (by decide)).1 200 decimal

/-- The digits that spell an address set a breakpoint at another address, where `0x` before them
would have set it, and those that are not all decimal show no memory. -/
theorem bare_digits_miss_their_address :
    let _ : Heap := .unlimited
    Spells 0x200 ['2', '0', '0'] ∧ Spells 0x3A0 ['3', 'a', '0'] ∧
    (newSession.react .empty "bp 200".toList).session.breakpoints = [200] ∧
    (newSession.react .empty "bp 0x200".toList).session.breakpoints = [0x200] ∧
    (newSession.react .empty "dump 3a0".toList).result =
      .error (.numeral (.malformed .byPrefix ['3', 'a', '0'])) := by
  intro _
  have letters : Spells 0x3A0 ['3', 'a', '0'] :=
    ⟨by decide, List.all_eq_true.mp rfl, by decide +kernel⟩
  refine ⟨spells_two_hundred, letters, ?_, ?_, rfl⟩
  · decide +kernel
  · decide +kernel

end Session

end ChipEight.Monitor
