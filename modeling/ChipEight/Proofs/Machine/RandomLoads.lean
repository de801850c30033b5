import ChipEight.Proofs.Machine.RunStates

/-!
# Random bytes in order

A machine takes a byte from its generator when it completes a random load, and at no other time
(`random_perform`). So the loads of a history store the bytes of the generator one after the other,
whatever happens between them (`masks_in_order`, `random_performAll`).
-/

namespace ChipEight

namespace Random.Generator

def afterBytes (g : Generator) : Nat → Generator
  | 0 => g
  | k + 1 => (g.byte.2).afterBytes k

def nthByte (g : Generator) (k : Nat) : UInt8 := (g.afterBytes k).byte.1

theorem nthByte_succ (g : Generator) (k : Nat) : g.nthByte (k + 1) = g.byte.2.nthByte k := rfl

end Random.Generator

namespace Machine

variable {m m' : Machine}

/-- What an instruction that loads a random byte has stored, and where. -/
structure RandomLoad where
  register : Register
  mask : UInt8
  stored : UInt8

/-- The random load that a move completes, if it completes one. -/
def randomLoad? (m : Machine) : Operation → Option RandomLoad
  | .step =>
    match m.step.result, classify m.nextWord with
    | .ok true, .random =>
      let x := fieldX m.nextWord
      some ⟨x, fieldByte m.nextWord, m.step.machine.register x⟩
    | _, _ => none
  | _ => none

/-- The random loads that some moves complete, in order. -/
def randomLoads (m : Machine) : List Operation → List RandomLoad
  | [] => []
  | move :: moves => (m.randomLoad? move).toList ++ (m.perform move).randomLoads moves

/-! ### One move -/

theorem randomLoad?_of_completes (completes : m.Completes .random) :
    let x := fieldX m.nextWord
    m.randomLoad? .step = some ⟨x, fieldByte m.nextWord, m.step.machine.register x⟩ := by
  obtain ⟨result, op⟩ := completes
  rw [randomLoad?, result, op]

theorem randomLoad?_of_not_completes (other : ¬m.Completes .random) :
    m.randomLoad? .step = none := by
  unfold randomLoad?
  dsimp only
  split
  · exact absurd ⟨‹_›, ‹_›⟩ other
  · rfl

theorem random_of_effect (effect : m.Effect m') :
    m'.random = if classify m.nextWord = .random then m.random.byte.2 else m.random := by
  unfold Effect at effect
  dsimp only at effect
  -- Every clause but the first says what becomes of a machine with the generator that it names.
  cases op : classify m.nextWord <;> simp only [op, reduceCtorEq, if_false, if_true] at effect ⊢
  case finish => exact (congrArg Machine.random effect).trans rfl
  all_goals exact (congrArg Machine.random effect.1).trans rfl

theorem random_step_of_not_completes (other : ¬m.Completes .random) :
    m.step.machine.random = m.random := by
  by_cases done : m.step.result = .ok true
  · obtain ⟨active, free⟩ := free_of_step_ok done
    rw [random_of_effect (step_effect active free), if_neg fun op => other ⟨done, op⟩]
  · exact step_kept_of_not_ok Machine.random (fun _ _ _ _ _ => rfl) done

theorem step_random (completes : m.Completes .random) :
    m.step.machine.random = m.random.byte.2 ∧ fieldX m.nextWord ≠ flagRegister ∧
    m.step.machine.register (fieldX m.nextWord) = m.random.byte.1 &&& fieldByte m.nextWord := by
  obtain ⟨active, free⟩ := free_of_step_ok completes.1
  have effect := step_effect active free
  have random := random_of_effect effect
  rw [if_pos completes.2] at random
  unfold Effect at effect
  simp only [completes.2] at effect
  obtain ⟨-, -, named, stored, -⟩ := effect
  refine ⟨random, named, ?_⟩
  apply UInt8.toNat_inj.mp
  rw [stored, UInt8.toNat_and]

theorem random_perform {move : Operation} (no_run : ∀ limit, move ≠ .run limit)
    (no_reset : move ≠ .reset) :
    match m.randomLoad? move with
    | some load => (m.perform move).random = m.random.byte.2 ∧ load.register ≠ flagRegister ∧
        load.stored = m.random.byte.1 &&& load.mask
    | none => (m.perform move).random = m.random := by
  by_cases step : move = .step
  · subst step
    rw [perform_step]
    by_cases completes : m.Completes .random
    · rw [randomLoad?_of_completes completes]
      exact step_random completes
    · rw [randomLoad?_of_not_completes completes]
      exact random_step_of_not_completes completes
  · obtain ⟨memory, pc, count, state, same⟩ := perform_frame m step no_run no_reset
    have no_load : m.randomLoad? move = none := by
      cases move with
      | step => exact absurd rfl step
      | _ => rfl
    rw [no_load, same]

theorem random_of_not_load {move : Operation} (no_run : ∀ limit, move ≠ .run limit)
    (no_reset : move ≠ .reset) (other : ¬(move = .step ∧ m.Completes .random)) :
    (m.perform move).random = m.random := by
  have none_loaded : m.randomLoad? move = none := by
    cases move with
    | step => exact randomLoad?_of_not_completes fun completes => other ⟨rfl, completes⟩
    | _ => rfl
  have performed := random_perform (m := m) no_run no_reset
  rw [none_loaded] at performed
  exact performed

/-! ### Many moves -/

variable {moves : List Operation}

theorem random_performAll (no_run : ∀ move ∈ moves, ∀ limit, move ≠ .run limit)
    (no_reset : .reset ∉ moves) :
    (m.performAll moves).random = m.random.afterBytes (m.randomLoads moves).length := by
  induction moves generalizing m with
  | nil => rfl
  | cons move moves ih =>
    rw [List.forall_mem_cons] at no_run
    obtain ⟨first, rest⟩ := not_or.mp (mt List.mem_cons.mpr no_reset)
    have performed := random_perform (m := m) no_run.1 (Ne.symm first)
    rw [performAll_cons, ih no_run.2 rest, randomLoads]
    cases loaded : m.randomLoad? move with
    | some load =>
      rw [loaded] at performed
      rw [performed.1]
      rfl
    | none =>
      rw [loaded] at performed
      rw [performed]
      rfl

/-- The load after `j` others stores what its mask lets through of the byte after `j` others. -/
theorem masks_in_order (no_run : ∀ move ∈ moves, ∀ limit, move ≠ .run limit)
    (no_reset : .reset ∉ moves) {j : Nat} {load : RandomLoad}
    (inside : (m.randomLoads moves)[j]? = some load) :
    load.register ≠ flagRegister ∧ load.stored = m.random.nthByte j &&& load.mask := by
  induction moves generalizing m j with
  | nil => cases inside
  | cons move moves ih =>
    rw [List.forall_mem_cons] at no_run
    obtain ⟨first, rest⟩ := not_or.mp (mt List.mem_cons.mpr no_reset)
    have performed := random_perform (m := m) no_run.1 (Ne.symm first)
    rw [randomLoads] at inside
    cases loaded : m.randomLoad? move with
    | some load' =>
      rw [loaded] at performed inside
      cases j with
      | zero =>
        obtain rfl : load' = load := Option.some.inj inside
        exact performed.2
      | succ j =>
        rw [Random.Generator.nthByte_succ, ← performed.1]
        exact ih no_run.2 rest inside
    | none =>
      rw [loaded] at performed inside
      rw [← performed]
      exact ih no_run.2 rest inside

/-- From a reset until the next one, the random loads that complete store the bytes of the generator
that the seed determines, in order and behind their masks. Nothing else moves the generator on: no
other instruction, no load that is rejected, no fault, no halt and no image. So machines of one seed
see the same random bytes, whatever else they do. Runs are taken step by step. -/
theorem random_bytes_in_order (m : Machine) (operations : List Operation)
    (no_reset : .reset ∉ operations) :
    let fresh := m.reset.machine
    let moves := fresh.unroll operations
    let after := fresh.performFirst moves
    let loads := fresh.randomLoads moves
    let source := Random.Generator.ofSeed m.seed
    after moves.length = fresh.performAll operations ∧
    (∀ k, (after k).random = source.afterBytes (fresh.randomLoads (moves.take k)).length) ∧
    (∀ j load, loads[j]? = some load →
      load.register ≠ flagRegister ∧ load.stored = source.nthByte j &&& load.mask) ∧
    (∀ k move, moves[k]? = some move →
      (¬(move = .step ∧ (after k).Completes .random) → (after (k + 1)).random = (after k).random) ∧
      (move = .step → (after k).Completes .random →
        (after (k + 1)).random = (after k).random.byte.2)) ∧
    ∀ (m' : Machine) (operations' : List Operation), m'.seed = m.seed → .reset ∉ operations' →
      let fresh' := m'.reset.machine
      let loads' := fresh'.randomLoads (fresh'.unroll operations')
      ∀ (j : Nat) load load', loads[j]? = some load → loads'[j]? = some load' →
        load.stored &&& load'.mask = load'.stored &&& load.mask := by
  intro fresh moves after loads source
  have no_run : ∀ move ∈ moves, ∀ limit, move ≠ .run limit := fun _ => ne_run_of_mem_unroll
  have none_reset : .reset ∉ moves := reset_notMem_unroll no_reset
  have seeded : fresh.random = source := rfl
  refine ⟨fresh.performFirst_unroll operations, ?_, ?_, ?_, ?_⟩
  · intro k
    show (fresh.performAll (moves.take k)).random = _
    rw [random_performAll fun move taken => no_run move (List.mem_of_mem_take taken), seeded]
    exact fun reset => none_reset (List.mem_of_mem_take reset)
  · intro j load inside
    rw [← seeded]
    exact masks_in_order no_run none_reset inside
  · intro k move taken
    obtain ⟨inside, rfl⟩ := List.getElem?_eq_some_iff.mp taken
    have mem := List.getElem_mem inside
    have next : after (k + 1) = (after k).perform moves[k] := performFirst_succ fresh inside
    rw [next]
    constructor
    · exact random_of_not_load (no_run _ mem) fun reset => none_reset (reset ▸ mem)
    · intro step completes
      rw [step, perform_step]
      exact (step_random completes).1
  · intro m' operations' same no_reset' fresh' loads' j load load' inside inside'
    obtain ⟨-, stored⟩ := masks_in_order no_run none_reset inside
    obtain ⟨-, stored'⟩ :=
      masks_in_order (fun _ => ne_run_of_mem_unroll) (reset_notMem_unroll no_reset') inside'
    have one_source : fresh'.random = fresh.random := congrArg Random.Generator.ofSeed same
    rw [stored, stored', one_source, UInt8.and_assoc, UInt8.and_assoc, UInt8.and_comm load.mask]

/-! ### Two games -/

theorem randomLoads_load (image : Array UInt8) (moves : List Operation) :
    m.randomLoads (.load image :: moves) = (m.perform (.load image)).randomLoads moves := by
  have no_load : m.randomLoad? (.load image) = none := rfl
  rw [randomLoads, no_load, Option.toList_none, List.nil_append]

theorem randomLoads_of_completes (completes : m.Completes .random) (moves : List Operation) :
    let x := fieldX m.nextWord
    m.randomLoads (.step :: moves) =
      ⟨x, fieldByte m.nextWord, m.step.machine.register x⟩ :: m.step.machine.randomLoads moves := by
  intro x
  rw [randomLoads, randomLoad?_of_completes completes, perform_step, Option.toList_some,
    List.singleton_append]

theorem randomLoads_of_not_completes (other : ¬m.Completes .random) (moves : List Operation) :
    m.randomLoads (.step :: moves) = m.step.machine.randomLoads moves := by
  rw [randomLoads, randomLoad?_of_not_completes other, perform_step, Option.toList_none,
    List.nil_append]

theorem completes_random (active : m.isStopped = false) (whole : m.pc.toNat ≤ 0xFFE)
    (op : classify m.nextWord = .random) (named : fieldX m.nextWord ≠ flagRegister) :
    m.Completes .random := by
  have left : ¬0xFFE < m.pc.toNat := Nat.not_lt.mpr whole
  apply completes_of_free active _ op
  simp [dueFault?, left, op, named]

/-- `RND V0, 0x0F`. -/
def firstThrow : Array UInt8 := #[0xC0, 0x0F]

/-- `LD V0, 0x05`, `RND V0, 0x3C`. -/
def laterThrow : Array UInt8 := #[0x60, 0x05, 0xC0, 0x3C]

def atFirstThrow : Machine := (powerOn 7 false).perform (.load firstThrow)

def beforeThrow : Machine := (powerOn 7 true).perform (.load laterThrow)

def atLaterThrow : Machine := beforeThrow.fetched.setRegister indexingRegister 0x05

theorem exists_randomLoads_firstThrow : ∃ stored,
    (powerOn 7 false).randomLoads [.load firstThrow, .step] = [⟨0, 0x0F, stored⟩] := by
  have loaded : atFirstThrow.memory = Memory.initial.load firstThrow := rfl
  have word : atFirstThrow.nextWord = 0xC00F :=
    nextWord_load firstThrow loaded (by decide) (by decide)
  have completes : atFirstThrow.Completes .random := by
    apply completes_random rfl (by decide) <;> rw [word] <;> decide
  have loads := randomLoads_of_completes completes []
  rw [word, show fieldX 0xC00F = 0 from rfl, show fieldByte 0xC00F = 0x0F from rfl] at loads
  exact ⟨_, (randomLoads_load firstThrow _).trans loads⟩

theorem exists_randomLoads_laterThrow : ∃ stored,
    (powerOn 7 true).randomLoads [.load laterThrow, .step, .step] = [⟨0, 0x3C, stored⟩] := by
  obtain ⟨⟨-, op⟩, stepped⟩ := step_of_execute (m := beforeThrow) (w := 0x6005) rfl
    (by decide) (nextWord_load laterThrow rfl (by decide) (by decide))
    (show _ = Except.ok atLaterThrow from rfl)
  have other : ¬beforeThrow.Completes .random := by
    intro completes
    exact absurd (op.symm.trans completes.2) (by decide)
  have loaded : atLaterThrow.memory = Memory.initial.load laterThrow := rfl
  have word : atLaterThrow.nextWord = 0xC03C :=
    nextWord_load laterThrow loaded (by decide) (by decide)
  have completes : atLaterThrow.Completes .random := by
    apply completes_random rfl (by decide) <;> rw [word] <;> decide
  have loads := randomLoads_of_completes completes []
  rw [word, show fieldX 0xC03C = 0 from rfl, show fieldByte 0xC03C = 0x3C from rfl] at loads
  have later := randomLoads_of_not_completes other [.step]
  rw [stepped] at later
  exact ⟨_, (randomLoads_load laterThrow _).trans (later.trans loads)⟩

/-- The second machine does something else before it throws, and stores another part of the same
byte. -/
theorem random_bytes_in_order_of_two_throws :
    let first := powerOn 7 false
    let second := powerOn 7 true
    let throws : List Operation := [.load firstThrow, .step]
    let throws' : List Operation := [.load laterThrow, .step, .step]
    (second.seed = first.seed ∧ .reset ∉ throws ∧ .reset ∉ throws') ∧
    ∃ stored stored', first.randomLoads throws = [⟨0, 0x0F, stored⟩] ∧
      second.randomLoads throws' = [⟨0, 0x3C, stored'⟩] ∧
      stored = (Random.Generator.ofSeed 7).nthByte 0 &&& 0x0F ∧
      stored &&& 0x3C = stored' &&& 0x0F := by
  intro first second throws throws'
  have no_reset : .reset ∉ throws := by simp [throws]
  have no_reset' : .reset ∉ throws' := by simp [throws']
  have unrolled : first.unroll throws = throws := by simp only [throws, unroll]
  have unrolled' : second.unroll throws' = throws' := by simp only [throws', unroll]
  have powered : first.reset.machine = first := rfl
  have powered' : second.reset.machine = second := rfl
  obtain ⟨stored, loads⟩ := exists_randomLoads_firstThrow
  obtain ⟨stored', loads'⟩ := exists_randomLoads_laterThrow
  obtain ⟨-, -, order, -, alike⟩ := random_bytes_in_order first throws no_reset
  have alike := alike second throws' rfl no_reset'
  rw [powered, unrolled, loads] at order alike
  dsimp only at alike
  rw [powered', unrolled', loads'] at alike
  refine ⟨⟨rfl, no_reset, no_reset'⟩, stored, stored', loads, loads', ?_, ?_⟩
  · exact (order 0 _ List.getElem?_cons_zero).2
  · exact alike 0 _ _ List.getElem?_cons_zero List.getElem?_cons_zero

end Machine

end ChipEight
