import ChipEight.Proofs.Machine.Calls

/-!
# Who owns the flag

The flag register and the note of who wrote it change together, in steps that complete one of six
operations and in no others (`flag_step`). So at any time they are what the last such step made
them (`flag_of_last_writer`).
-/

namespace ChipEight

/-- Whether the operation can write the flag register, which none names as its destination. -/
def Op.writesFlag : Op → Bool
  | .addReg | .sub | .subFrom | .shiftRight | .shiftLeft | .draw => true
  | _ => false

namespace Machine

variable {m m' : Machine}

/-- Which operation the flag register was last written by, and what it holds. -/
def flag (m : Machine) : Option Op × Nat := (m.flagSource, (m.register flagRegister).toNat)

/-- What the next instruction makes of the flag, if it writes it. -/
def flagValue? (m : Machine) : Option Nat :=
  let w := m.nextWord
  let vx := (m.register (fieldX w)).toNat
  let vy := (m.register (fieldY w)).toNat
  match classify w with
  | .addReg => some (if 255 < vx + vy then 1 else 0)
  | .sub => some (if vy < vx then 1 else 0)
  | .subFrom => some (if vx < vy then 1 else 0)
  | .shiftRight => some (vx % 2)
  | .shiftLeft => some (vx / 128)
  | .draw =>
    let sprite := m.memory.readBytes m.index.toNat (fieldN w)
    if (m.screen.blit vx vy sprite).2 then some 1 else none
  | _ => none

/-- The next step completes an operation that makes the flag `value`. -/
def WritesFlag (m : Machine) (source : Op) (value : Nat) : Prop :=
  m.Completes source ∧ m.flagValue? = some value

theorem bit_of_writesFlag {source : Op} {value : Nat} (writes : m.WritesFlag source value) :
    source.writesFlag ∧ value ≤ 1 ∧ (source = .draw → value = 1) := by
  obtain ⟨⟨-, op⟩, written⟩ := writes
  have byte := (m.register (fieldX m.nextWord)).toNat_lt
  unfold flagValue? at written
  cases source <;> simp only [op, reduceCtorEq, Option.some.injEq] at written
  case addReg | sub | subFrom =>
    refine ⟨rfl, ?_, Op.noConfusion⟩
    split at written <;> omega
  case shiftRight | shiftLeft => exact ⟨rfl, by omega, Op.noConfusion⟩
  case draw =>
    rw [Option.ite_none_right_eq_some] at written
    obtain ⟨-, raised⟩ := written
    cases raised
    exact ⟨rfl, Nat.le_refl 1, fun _ => rfl⟩

/-! ### Effects -/

theorem flag_random (m : Machine) (random : Random.Generator) :
    { m with random }.flag = m.flag := rfl

theorem flag_of_goesTo {target : Nat} (goes : m.GoesTo m' target) : m'.flag = m.flag := by
  rw [goes.1]
  rfl

theorem flag_of_writes {x : Register} {value : Nat} (writes : m.Writes m' x value) :
    m'.flag = m.flag := by
  obtain ⟨frame, -, kept, -, others⟩ := writes
  have source : m'.flagSource = m.flagSource := by
    rw [frame]
    rfl
  rw [flag, flag, source, others flagRegister (Ne.symm kept)]

theorem flag_of_writesFlagged {x : Register} {source : Op} {values : Nat → Nat → Prop} {value : Nat}
    (writes : m.WritesFlagged m' x source values)
    (fixed : ∀ vx < 256, ∀ vf ≤ 1, values vx vf → vf = value) : m'.flag = (some source, value) := by
  obtain ⟨frame, -, -, related, bit, -⟩ := writes
  have noted : m'.flagSource = some source := by
    rw [frame]
  have held := fixed _ (m'.register x).toNat_lt _ bit related
  rw [flag, noted, held]

theorem flag_of_draws {x y n : Nat} (draws : m.Draws m' x y n) :
    let sprite := m.memory.readBytes m.index.toNat n
    m'.flag = if (m.screen.blit x y sprite).2 then (some .draw, 1) else m.flag := by
  unfold Draws at draws
  rw [← Memory.readBytes_natCast] at draws
  obtain ⟨frame, -, held, -⟩ := draws
  intro sprite
  have noted : m'.flagSource =
      if (m.screen.blit x y sprite).2 then some .draw else m.flagSource := by
    rw [frame]
  rw [flag, noted, held]
  split <;> rfl

theorem flag_of_effect (effect : m.Effect m') :
    m'.flag = match m.flagValue? with
      | some value => (some (classify m.nextWord), value)
      | none => m.flag := by
  unfold Effect at effect
  unfold flagValue?
  dsimp only at effect ⊢
  have byte := (m.register (fieldX m.nextWord)).toNat_lt
  cases op : classify m.nextWord <;> simp only [op] at effect ⊢
  case finish =>
    rw [effect]
    rfl
  case sys | jump | skipEqByte | skipNeByte | skipEqReg | skipNeReg | jumpOffset =>
    exact flag_of_goesTo effect
  case clear | ret | call | loadIndex =>
    rw [effect.1]
    rfl
  case loadByte | addByte | loadReg | or | and | xor => exact flag_of_writes effect
  case random => exact (flag_of_writes effect).trans (flag_random m _)
  case addReg | sub | subFrom =>
    apply flag_of_writesFlagged effect
    intro vx small vf bit related
    split <;> omega
  case shiftRight | shiftLeft =>
    apply flag_of_writesFlagged effect
    intro vx small vf bit related
    omega
  case draw =>
    rw [flag_of_draws effect]
    split <;> simp

/-! ### Steps -/

theorem flag_step_of_not_ok (stuck : m.step.result ≠ .ok true) : m.step.machine.flag = m.flag :=
  step_kept_of_not_ok flag (fun _ _ _ _ _ => rfl) stuck

/-- A step writes the flag and notes its operation, or it does neither. -/
theorem flag_step (m : Machine) :
    (∀ source value, m.WritesFlag source value → m.step.machine.flag = (some source, value)) ∧
    ((∀ source value, ¬m.WritesFlag source value) → m.step.machine.flag = m.flag) := by
  by_cases done : m.step.result = .ok true
  · obtain ⟨active, free⟩ := free_of_step_ok done
    have flag := flag_of_effect (step_effect active free)
    constructor
    · rintro source value ⟨⟨-, op⟩, written⟩
      rw [flag, written, op]
    · intro silent
      cases written : m.flagValue? with
      | none => rw [flag, written]
      | some value => exact absurd ⟨⟨done, rfl⟩, written⟩ (silent (classify m.nextWord) value)
  · exact ⟨fun _ _ writes => absurd writes.1.1 done, fun _ => flag_step_of_not_ok done⟩

theorem kept_of_completes {op : Op} (completes : m.Completes op) (names : op.hasDestination) :
    fieldX m.nextWord ≠ flagRegister := by
  have free := (free_of_step_ok completes.1).2
  exact (noFault_of_dueFault? free).kept (completes.2 ▸ names)

theorem flag_step_of_completes {op : Op} (completes : m.Completes op)
    (other : op.writesFlag = false) : m.step.machine.flag = m.flag := by
  refine (flag_step m).2 fun source value writes => ?_
  obtain ⟨can, -, -⟩ := bit_of_writesFlag writes
  rw [← writes.1.2, completes.2, other] at can
  cases can

/-! ### Histories -/

theorem flag_powerOn (seed : Int) (wrap : Bool) : (powerOn seed wrap).flag = (none, 0) := rfl

theorem flag_perform {move : Operation} (no_run : ∀ limit, move ≠ .run limit)
    (no_step : move ≠ .step) (no_reset : move ≠ .reset) : (m.perform move).flag = m.flag := by
  obtain ⟨memory, pc, count, state, same⟩ := perform_frame m no_step no_run no_reset
  rw [same]
  rfl

def WritesFlagAt (m : Machine) (moves : List Operation) (k : Nat) (source : Op) (value : Nat) :
    Prop :=
  moves[k]? = some .step ∧ (m.performFirst moves k).WritesFlag source value

/-- The flag is what the last of the first `k` moves that wrote it has made it, if there is one. -/
def FlagOfLast (m : Machine) (moves : List Operation) (k : Nat) (flag : Option Op × Nat) : Prop :=
  (∀ i < k, ∀ source value, ¬m.WritesFlagAt moves i source value) ∧ flag = m.flag ∨
  ∃ i < k, ∃ source value, m.WritesFlagAt moves i source value ∧
    (∀ j, i < j → j < k → ∀ source value, ¬m.WritesFlagAt moves j source value) ∧
    flag = (some source, value)

variable {moves : List Operation}

theorem eq_one_of_flagOfLast {k : Nat} {flag : Option Op × Nat} (last : m.FlagOfLast moves k flag)
    (none_first : m.flagSource = none) (drawn : flag.1 = some .draw) : flag.2 = 1 := by
  obtain ⟨-, rfl⟩ | ⟨i, -, source, value, writes, -, rfl⟩ := last
  · cases none_first.symm.trans drawn
  · obtain ⟨-, -, collision⟩ := bit_of_writesFlag writes.2
    exact collision (Option.some.inj drawn)

theorem flag_performFirst_of_writes {k : Nat} {source : Op} {value : Nat}
    (writes : m.WritesFlagAt moves k source value) :
    (m.performFirst moves (k + 1)).flag = (some source, value) := by
  obtain ⟨taken, writes⟩ := writes
  obtain ⟨inside, step⟩ := List.getElem?_eq_some_iff.mp taken
  rw [performFirst_succ m inside, step, perform_step]
  exact (flag_step _).1 source value writes

theorem flag_performFirst_of_not (no_run : ∀ move ∈ moves, ∀ limit, move ≠ .run limit)
    (no_reset : .reset ∉ moves) {k : Nat}
    (silent : ∀ source value, ¬m.WritesFlagAt moves k source value) :
    (m.performFirst moves (k + 1)).flag = (m.performFirst moves k).flag := by
  by_cases inside : k < moves.length
  · have mem := List.getElem_mem inside
    rw [performFirst_succ m inside]
    by_cases step : moves[k] = .step
    · have taken := List.getElem?_eq_some_iff.mpr ⟨inside, step⟩
      rw [step, perform_step]
      exact (flag_step _).2 fun source value writes => silent source value ⟨taken, writes⟩
    · exact flag_perform (no_run _ mem) step fun reset => no_reset (reset ▸ mem)
  · have finished := Nat.not_lt.mp inside
    rw [performFirst, performFirst, List.take_of_length_le finished,
      List.take_of_length_le (Nat.le_succ_of_le finished)]

theorem flagOfLast_performFirst (no_run : ∀ move ∈ moves, ∀ limit, move ≠ .run limit)
    (no_reset : .reset ∉ moves) (k : Nat) :
    m.FlagOfLast moves k (m.performFirst moves k).flag := by
  induction k with
  | zero => exact .inl ⟨fun i before => absurd before (Nat.not_lt_zero i), rfl⟩
  | succ k ih =>
    by_cases written : ∃ source value, m.WritesFlagAt moves k source value
    · obtain ⟨source, value, writes⟩ := written
      refine .inr ⟨k, Nat.lt_succ_self k, source, value, writes, ?_,
        flag_performFirst_of_writes writes⟩
      intro j after before
      omega
    · have silent : ∀ source value, ¬m.WritesFlagAt moves k source value :=
        fun source value writes => written ⟨source, value, writes⟩
      have until_k {first : Nat} (before : ∀ j, first ≤ j → j < k →
          ∀ source value, ¬m.WritesFlagAt moves j source value) :
          ∀ j, first ≤ j → j < k + 1 → ∀ source value, ¬m.WritesFlagAt moves j source value := by
        intro j from_first until_succ
        obtain earlier | rfl := Nat.lt_succ_iff_lt_or_eq.mp until_succ
        · exact before j from_first earlier
        · exact silent
      rw [flag_performFirst_of_not no_run no_reset silent]
      obtain ⟨untouched, first⟩ | ⟨i, before, source, value, writes, last, same⟩ := ih
      · exact .inl ⟨fun j => until_k (fun j _ => untouched j) j (Nat.zero_le j), first⟩
      · exact .inr ⟨i, Nat.lt_succ_of_lt before, source, value, writes, until_k last, same⟩

/-- From power-on until the next reset the flag register and the note of who wrote it are what the
last step that completed one of the six writing operations made them; a draw raises it only. No
other move, and no instruction that names a destination, changes either. Runs are taken step by
step. -/
theorem flag_of_last_writer (seed : Int) (wrap : Bool) (operations : List Operation)
    (no_reset : .reset ∉ operations) :
    let fresh := powerOn seed wrap
    let moves := fresh.unroll operations
    let after := fresh.performFirst moves
    after moves.length = fresh.performAll operations ∧
    fresh.flag = (none, 0) ∧
    (∀ k,
      fresh.FlagOfLast moves k (after k).flag ∧
      ((after k).flagSource = some .draw → ((after k).register flagRegister).toNat = 1) ∧
      ((∀ source value, ¬fresh.WritesFlagAt moves k source value) →
        (after (k + 1)).flag = (after k).flag) ∧
      ∀ source value, fresh.WritesFlagAt moves k source value →
        source.writesFlag ∧ value ≤ 1 ∧ (after (k + 1)).flag = (some source, value)) ∧
    ∀ k, moves[k]? = some .step → ∀ op, (after k).Completes op →
      (op.hasDestination → fieldX (after k).nextWord ≠ flagRegister) ∧
      (op ∈ [.loadByte, .loadReg, .loadIndex, .or, .and, .xor, .addByte, .random] →
        (after (k + 1)).flag = (after k).flag) := by
  intro fresh moves after
  have no_run : ∀ move ∈ moves, ∀ limit, move ≠ .run limit := fun _ => ne_run_of_mem_unroll
  have none_reset : .reset ∉ moves := reset_notMem_unroll no_reset
  refine ⟨fresh.performFirst_unroll operations, flag_powerOn seed wrap,
    fun k => ⟨?_, ?_, ?_, ?_⟩, ?_⟩
  · exact flagOfLast_performFirst no_run none_reset k
  · exact eq_one_of_flagOfLast (flagOfLast_performFirst no_run none_reset k) rfl
  · exact flag_performFirst_of_not no_run none_reset
  · intro source value writes
    obtain ⟨can, bit, -⟩ := bit_of_writesFlag writes.2
    exact ⟨can, bit, flag_performFirst_of_writes writes⟩
  · intro k taken op completes
    refine ⟨kept_of_completes completes, fun others => ?_⟩
    have other : op.writesFlag = false := by
      simp only [List.mem_cons, List.not_mem_nil, or_false] at others
      obtain rfl | rfl | rfl | rfl | rfl | rfl | rfl | rfl := others <;> rfl
    obtain ⟨inside, step⟩ := List.getElem?_eq_some_iff.mp taken
    show (fresh.performFirst moves (k + 1)).flag = _
    rw [performFirst_succ fresh inside, step, perform_step]
    exact flag_step_of_completes completes other

/-- `LD V0, 0x81`, `SHR V0`, `LD V0, 0x02`. -/
def shiftedOut : Array UInt8 := #[0x60, 0x81, 0x80, 0x06, 0x60, 0x02]

def beforeLoad : Machine := (powerOn 0 false).perform (.load shiftedOut)

def beforeShift : Machine := beforeLoad.fetched.setRegister indexingRegister 0x81

def beforeReload : Machine :=
  (beforeShift.fetched.setRegister indexingRegister 0x40).setFlag true .shiftRight

theorem step_beforeLoad :
    beforeLoad.Completes .loadByte ∧ beforeLoad.step.machine = beforeShift :=
  step_of_execute (w := 0x6081) rfl (by decide)
    (nextWord_load shiftedOut rfl (by decide) (by decide)) rfl

theorem step_beforeShift :
    beforeShift.Completes .shiftRight ∧ beforeShift.step.machine = beforeReload :=
  step_of_execute (w := 0x8006) rfl (by decide)
    (nextWord_load shiftedOut rfl (by decide) (by decide)) rfl

theorem flagValue?_beforeShift : beforeShift.flagValue? = some 1 := by
  have loaded : beforeShift.memory = Memory.initial.load shiftedOut := rfl
  have word := nextWord_load shiftedOut loaded (by decide) (by decide)
  have op : classify 0x8006 = .shiftRight := by decide
  have held : beforeShift.register (fieldX 0x8006) = 0x81 := rfl
  rw [flagValue?, show beforeShift.nextWord = 0x8006 from word, op]
  simp only [held]
  decide

theorem completes_beforeReload : beforeReload.Completes .loadByte := by
  have loaded : beforeReload.memory = Memory.initial.load shiftedOut := rfl
  have word := nextWord_load shiftedOut loaded (by decide) (by decide)
  exact (step_of_execute (w := 0x6002) rfl (by decide) word rfl).1

def shiftMoves : List Operation := [.load shiftedOut, .step, .step, .step]

/-- The bit that is shifted out stays in the flag when its register is loaded again. -/
theorem flag_of_last_writer_of_shift :
    ((powerOn 0 false).performFirst shiftMoves 4).flag = (some .shiftRight, 1) := by
  have first : (powerOn 0 false).performFirst shiftMoves 1 = beforeLoad := by
    rw [performFirst_succ _ (by decide)]
    rfl
  have second := performFirst_step rfl first step_beforeLoad.2
  have third := performFirst_step rfl second step_beforeShift.2
  simp only [Nat.reduceAdd] at second third
  obtain ⟨-, -, flag, others⟩ := flag_of_last_writer 0 false shiftMoves (by simp [shiftMoves])
  have unrolled : (powerOn 0 false).unroll shiftMoves = shiftMoves := by
    simp only [shiftMoves, unroll]
  rw [unrolled] at flag others
  obtain ⟨-, -, -, written⟩ := flag 2
  obtain ⟨-, kept⟩ := others 3 rfl .loadByte (by rw [third]; exact completes_beforeReload)
  rw [kept (by simp)]
  refine (written .shiftRight 1 ⟨rfl, ?_⟩).2.2
  rw [second]
  exact ⟨step_beforeShift.1, flagValue?_beforeShift⟩

end Machine

end ChipEight
