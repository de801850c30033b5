import ChipEight.Machine.Execution
import ChipEight.Proofs.Memory

/-!
# What a step does

A step of an active machine fetches a whole word or panics where it stands; after the fetch it
either panics or is what the instruction makes of the machine past its word.
-/

namespace ChipEight.Machine

variable {m : Machine}

def nextWord (m : Machine) : UInt16 :=
  wordOfBytes (m.memory.read m.pc.toNat) (m.memory.read (m.pc.toNat + 1))

/-- The machine past the word at its program counter, about to execute it. -/
def fetched (m : Machine) : Machine :=
  { m with
    state := .running, pc := m.pc + 2, count := m.count + 1, last := some (decode m.nextWord) }

theorem nextWord_eq (first : m.pc.toNat < 4096) (second : m.pc.toNat + 1 < 4096) :
    m.nextWord = wordOfBytes m.memory[m.pc.toNat] m.memory[m.pc.toNat + 1] := by
  have first_byte := m.memory.read_of_lt first
  have second_byte := m.memory.read_of_lt second
  rw [nextWord, first_byte, ← second_byte]
  rfl

theorem nextWord_load (image : Array UInt8) {memory : Memory}
    (loaded : m.memory = memory.load image) (program : 0x200 ≤ m.pc.toNat) (whole : m.pc.toNat ≤ 0xFFE) :
    m.nextWord = wordOfBytes (image.getD (m.pc.toNat - 0x200) 0)
      (image.getD (m.pc.toNat + 1 - 0x200) 0) := by
  have second := Memory.read_load memory image (a := m.pc.toNat + 1) (by omega) (by omega)
  rw [Int.natCast_add] at second
  rw [nextWord, loaded, Memory.read_load memory image program (by omega)]
  exact congrArg _ second

theorem pc_fetched (whole : m.pc.toNat ≤ 0xFFE) : m.fetched.pc.toNat = m.pc.toNat + 2 := by
  show (m.pc + 2).toNat = _
  rw [UInt16.toNat_add]
  exact Nat.mod_eq_of_lt (by show m.pc.toNat + 2 < 65536; omega)

/-! ### Steps -/

theorem isStopped_eq_false : m.isStopped = false ↔ m.state = .idle ∨ m.state = .running := by
  unfold isStopped
  cases m.state <;> simp

theorem step_stopped (stopped : m.isStopped = true) : m.step = ⟨.ok false, m, []⟩ := by
  unfold step
  cases state : m.state with
  | idle | running => simp [isStopped, state] at stopped
  | halted | panicked => rfl

theorem step_short (active : m.isStopped = false) (short : 0xFFE < m.pc.toNat) :
    m.step = panicWith m ⟨m.pc, .fetchPastEnd⟩ [] := by
  have none_left : ¬m.pc.toNat + 1 < 4096 := by omega
  unfold step
  cases state : m.state with
  | idle | running => simp [cycle, fetch, none_left, panicWith]
  | halted | panicked => simp [isStopped, state] at active

theorem step_whole (active : m.isStopped = false) (whole : m.pc.toNat ≤ 0xFFE) :
    m.step = match executeGuarded (decode m.nextWord) m.fetched with
      | .error cause => m.fetched.panicWith ⟨m.pc, cause⟩ [.executing m.pc (decode m.nextWord)]
      | .ok next => ⟨.ok true, next, .executing m.pc (decode m.nextWord) ::
          if decode m.nextWord = .finish then [.halted next.pc .endOfProgram] else []⟩ := by
  have left : m.pc.toNat + 1 < 4096 := by omega
  unfold step fetched
  rw [nextWord_eq (by omega) left]
  cases state : m.state with
  | idle | running =>
    simp only [cycle, fetch, left, dif_pos, decodeBytes]
    rfl
  | halted | panicked => simp [isStopped, state] at active

/-! ### Registers -/

@[simp] theorem register_setRegister (m : Machine) (x r : Register) (value : UInt8) :
    (m.setRegister x value).register r = if r = x then value else m.register r := by
  simp only [register, setRegister, Fin.getElem_fin, Vector.getElem_set]
  by_cases same : r = x
  · simp [same]
  · rw [if_neg fun h => same (Fin.ext h.symm), if_neg same]

@[simp] theorem register_setFlag (m : Machine) (flag : Bool) (source : Op) (r : Register) :
    (m.setFlag flag source).register r =
      if r = flagRegister then if flag then 1 else 0 else m.register r :=
  register_setRegister m flagRegister r _

/-! ### Targets -/

theorem checkTarget_eq (transfer : Transfer) (target : Nat) :
    checkTarget transfer target =
      if 0x200 ≤ target ∧ target ≤ 0xFFF then .ok (UInt16.ofNat target)
      else .error (.illegalTarget transfer target) := by
  unfold checkTarget programStart
  simp only [Nat.lt_succ_iff]

end ChipEight.Machine
