import ChipEight.Proofs.Framebuffer.Blit
import ChipEight.Proofs.Machine.Stepping

/-!
# Machines with other edges

A sprite whose set bits all lie on a surface is drawn in the same way whether the surface wraps
around or not (`blit_withWrap`). So as long as a program draws on the screen only, machines that
differ in that go through the same states (`steps_withEdges`).
-/

namespace ChipEight.Framebuffer

variable {width height : Int} {fb : Framebuffer width height}

def withWrap (fb : Framebuffer width height) (wrap : Bool) : Framebuffer width height :=
  { fb with wrap }

theorem offset_inside {x y : Int} (left : 0 ≤ x) (right : x < width) (top : 0 ≤ y)
    (bottom : y < height) : fb.offset x y = y * width + x := by
  unfold offset
  rw [Int.fmod_eq_emod_of_nonneg y (by omega), Int.fmod_eq_emod_of_nonneg x (by omega),
    Int.emod_eq_of_lt top bottom, Int.emod_eq_of_lt left right, ite_self]

theorem cell?_withWrap {x y : Int} (left : 0 ≤ x) (right : x < width) (top : 0 ≤ y)
    (bottom : y < height) (wrap : Bool) : (fb.withWrap wrap).cell? x y = fb.cell? x y := by
  have number : (fb.withWrap wrap).offset x y = fb.offset x y := by
    rw [offset_inside left right top bottom, offset_inside left right top bottom]
  unfold cell?
  simp only [number]

theorem flip_withWrap (fb : Framebuffer width height) (collision wrap : Bool)
    (i? : Option (Fin (area width height))) :
    flip (fb.withWrap wrap, collision) i? =
      ((flip (fb, collision) i?).1.withWrap wrap, (flip (fb, collision) i?).2) := by
  cases i? <;> rfl

theorem foldl_flip_withWrap (cells : List (Option (Fin (area width height))))
    (state : Framebuffer width height × Bool) (wrap : Bool) :
    cells.foldl flip (state.1.withWrap wrap, state.2) =
      ((cells.foldl flip state).1.withWrap wrap, (cells.foldl flip state).2) := by
  induction cells generalizing state with
  | nil => rfl
  | cons i? cells ih => rw [List.foldl_cons, List.foldl_cons, flip_withWrap, ih]

theorem blit_withWrap {x y : Int} {sprite : List UInt8} (left : 0 ≤ x) (top : 0 ≤ y)
    (inside : ∀ bit ∈ setBits sprite, x + bit.1 < width ∧ y + bit.2 < height) (wrap : Bool) :
    (fb.withWrap wrap).blit x y sprite =
      ((fb.blit x y sprite).1.withWrap wrap, (fb.blit x y sprite).2) := by
  have cells : (fb.withWrap wrap).cellsUnder x y sprite = fb.cellsUnder x y sprite := by
    apply List.map_congr_left
    intro bit set
    obtain ⟨right, bottom⟩ := inside bit set
    exact cell?_withWrap (by omega) right (by omega) bottom wrap
  rw [blit_eq_foldl, blit_eq_foldl, cells]
  exact foldl_flip_withWrap _ (fb, false) wrap

end ChipEight.Framebuffer

namespace ChipEight.Machine

variable {m : Machine}

def withEdges (m : Machine) (wrap : Bool) : Machine :=
  { m with screen := m.screen.withWrap wrap }

/-- All set bits that an instruction draws, if it draws, lie on the screen. -/
def DrawsInside (m : Machine) : Prop :=
  let w := m.nextWord
  classify w = .draw → ∀ row < (fieldN w).val, ∀ col < 8,
    rowBit (m.memory.read (m.index.toNat + row)) col = true →
    (m.register (fieldX w)).toNat + col ≤ 63 ∧ (m.register (fieldY w)).toNat + row ≤ 31

/-! ### Instructions -/

theorem jump_withEdges (transfer : Transfer) (target : Nat) (wrap : Bool) :
    (m.withEdges wrap).jump transfer target =
      (m.jump transfer target).map (·.withEdges wrap) := by
  unfold jump
  cases checkTarget transfer target <;> rfl

theorem call_withEdges (target : Address) (wrap : Bool) :
    (m.withEdges wrap).call target = (m.call target).map (·.withEdges wrap) := by
  unfold call
  cases checkTarget .call target.val with
  | error cause => rfl
  | ok pc =>
    have pushed : (m.withEdges wrap).stack.push? (m.withEdges wrap).pc = m.stack.push? m.pc := rfl
    dsimp only
    rw [pushed]
    cases m.stack.push? m.pc <;> rfl

theorem ret_withEdges (wrap : Bool) :
    (m.withEdges wrap).ret = m.ret.map (·.withEdges wrap) := by
  have popped : (m.withEdges wrap).stack.pop? = m.stack.pop? := rfl
  unfold ret
  rw [popped]
  cases m.stack.pop? <;> rfl

theorem skipIf_withEdges (condition wrap : Bool) :
    (m.withEdges wrap).skipIf condition = (m.skipIf condition).withEdges wrap := by
  cases condition <;> rfl

/-- The machine with what a blit has given: a screen, and whether a pixel was darkened. -/
def withDrawn (m : Machine) (drawn : Screen × Bool) : Machine :=
  let m := { m with screen := drawn.1 }
  if drawn.2 then m.setFlag true .draw else m

theorem withDrawn_withEdges (drawn : Screen × Bool) (wrap : Bool) :
    (m.withEdges wrap).withDrawn (drawn.1.withWrap wrap, drawn.2) =
      (m.withDrawn drawn).withEdges wrap := by
  unfold withDrawn
  dsimp only
  split <;> rfl

/-- The set bits that are drawn are those that memory holds at the index register. -/
theorem bits_inside (inside : m.DrawsInside) (draws : classify m.nextWord = .draw) :
    ∀ bit ∈ setBits (m.memory.readBytes m.index.toNat (fieldN m.nextWord).val),
      ((m.register (fieldX m.nextWord)).toNat : Int) + bit.1 < 64 ∧
      ((m.register (fieldY m.nextWord)).toNat : Int) + bit.2 < 32 := by
  intro bit set
  obtain ⟨left, byte, row, lit⟩ := mem_setBits.mp set
  have below : bit.2 < (fieldN m.nextWord).val := by
    have bounds := (bounds_of_mem_setBits set).2
    rwa [Memory.readBytes, List.length_map, List.length_range] at bounds
  rw [Memory.readBytes, List.getElem?_map, List.getElem?_range below] at row
  obtain rfl := Option.some.inj row
  obtain ⟨right, bottom⟩ := inside draws bit.2 below bit.1 left lit
  omega

theorem draw_withEdges (inside : m.DrawsInside) (draws : classify m.nextWord = .draw)
    (wrap : Bool) :
    let x := fieldX m.nextWord
    let y := fieldY m.nextWord
    let height := fieldN m.nextWord
    (m.fetched.withEdges wrap).draw x y height = (m.fetched.draw x y height).withEdges wrap := by
  intro x y height
  let sprite := m.memory.readBytes m.index.toNat height.val
  have blit : (m.screen.withWrap wrap).blit (m.register x).toNat (m.register y).toNat sprite = _ :=
    Framebuffer.blit_withWrap (Int.natCast_nonneg _) (Int.natCast_nonneg _)
      (bits_inside inside draws) wrap
  show (m.fetched.withEdges wrap).withDrawn
    ((m.screen.withWrap wrap).blit (m.register x).toNat (m.register y).toNat sprite) = _
  rw [blit]
  exact withDrawn_withEdges _ wrap

theorem executeGuarded_withEdges (inside : m.DrawsInside) (wrap : Bool) :
    executeGuarded (decode m.nextWord) (m.fetched.withEdges wrap) =
      (executeGuarded (decode m.nextWord) m.fetched).map (·.withEdges wrap) := by
  rw [executeGuarded_decode, executeGuarded_decode]
  split
  · rfl
  · unfold decode
    cases op : classify m.nextWord with
    | draw => exact congrArg _ (draw_withEdges inside op wrap)
    | jump | jumpOffset => exact jump_withEdges _ _ wrap
    | call => exact call_withEdges _ wrap
    | ret => exact ret_withEdges wrap
    | skipEqByte | skipNeByte | skipEqReg | skipNeReg =>
      exact congrArg _ (skipIf_withEdges _ wrap)
    | _ => rfl

/-! ### Steps -/

/-- A machine with other edges takes the same step, if it draws inside. -/
theorem step_withEdges (inside : m.isStopped = false → m.pc.toNat ≤ 0xFFE → m.DrawsInside)
    (wrap : Bool) :
    (m.withEdges wrap).step =
      ⟨m.step.result, m.step.machine.withEdges wrap, m.step.events⟩ := by
  cases stopped : m.isStopped with
  | true =>
    have still : (m.withEdges wrap).isStopped = true := stopped
    rw [step_stopped still, step_stopped stopped]
  | false =>
    have active : (m.withEdges wrap).isStopped = false := stopped
    by_cases short : 0xFFE < m.pc.toNat
    · rw [step_short (m := m.withEdges wrap) active short, step_short stopped short]
      rfl
    · have whole := Nat.not_lt.mp short
      have execute : executeGuarded (decode (m.withEdges wrap).nextWord)
          (m.withEdges wrap).fetched = _ := executeGuarded_withEdges (inside stopped whole) wrap
      rw [step_whole (m := m.withEdges wrap) active whole, step_whole stopped whole, execute]
      cases executeGuarded (decode m.nextWord) m.fetched <;> rfl

theorem steps_withEdges (m : Machine) (wrap : Bool) (n : Nat)
    (inside : ∀ k < n, (m.steps k).isStopped = false → (m.steps k).pc.toNat ≤ 0xFFE →
      (m.steps k).DrawsInside) :
    (m.withEdges wrap).steps n = (m.steps n).withEdges wrap ∧
    (m.withEdges wrap).eventsOfSteps n = m.eventsOfSteps n := by
  induction n generalizing m with
  | zero => exact ⟨rfl, rfl⟩
  | succ n ih =>
    have step := step_withEdges (m := m) (inside 0 (Nat.succ_pos n)) wrap
    obtain ⟨machine, logged⟩ := ih m.step.machine fun k below =>
      inside (k + 1) (Nat.succ_lt_succ below)
    rw [steps_succ, eventsOfSteps_succ, steps_succ, eventsOfSteps_succ]
    have next : (m.withEdges wrap).step.machine = m.step.machine.withEdges wrap := by rw [step]
    have events : (m.withEdges wrap).step.events = m.step.events := by rw [step]
    rw [next, machine, events, logged]
    exact ⟨rfl, rfl⟩

/-- As long as each instruction that draws sets bits on the screen only, be there clear bits over
its edges or not, a machine with other edges goes through the same states, with the same results and
events. -/
theorem edges_never_met (m : Machine) (wrap : Bool) (n : Nat)
    (inside : ∀ k < n, (m.steps k).isStopped = false → (m.steps k).pc.toNat ≤ 0xFFE →
      (m.steps k).DrawsInside) :
    let other : Machine := { m with screen := { m.screen with wrap } }
    (∀ k ≤ n,
      other.steps k = { m.steps k with screen := { (m.steps k).screen with wrap } } ∧
      other.eventsOfSteps k = m.eventsOfSteps k) ∧
    ∀ k < n, (other.steps k).step.result = (m.steps k).step.result := by
  intro other
  have same : ∀ k ≤ n, _ := fun k within =>
    steps_withEdges m wrap k fun j below => inside j (Nat.lt_of_lt_of_le below within)
  refine ⟨same, fun k below => ?_⟩
  have machine : other.steps k = (m.steps k).withEdges wrap := (same k (Nat.le_of_lt below)).1
  rw [machine, step_withEdges (inside k below)]

instance : Decidable m.DrawsInside :=
  inferInstanceAs (Decidable (_ → ∀ row < _, ∀ col < 8, _ → _ ∧ _))

/-- A machine that draws a row, all of whose bits but the first are clear, into the last corner of
its screen, and draws it again. -/
def cornerDots : Machine :=
  { powerOn 0 false with
    memory := Memory.writeBytes (Vector.replicate 4096 0) 0x200 [0xD1, 0x21, 0xD1, 0x21, 0x80]
    registers := ((Vector.replicate 16 0).set 1 63).set 2 31
    index := 0x204 }

theorem edges_never_met_in_corner :
    let wrapped : Machine := { cornerDots with screen := { cornerDots.screen with wrap := true } }
    (∀ k < 2, (cornerDots.steps k).isStopped = false → (cornerDots.steps k).pc.toNat ≤ 0xFFE →
      (cornerDots.steps k).DrawsInside) ∧
    (wrapped.steps 2).register flagRegister = 1 := by
  intro wrapped
  have inside : ∀ k < 2, (cornerDots.steps k).isStopped = false →
      (cornerDots.steps k).pc.toNat ≤ 0xFFE → (cornerDots.steps k).DrawsInside := by
    decide +kernel
  have darkened : (cornerDots.steps 2).register flagRegister = 1 := by decide +kernel
  have kept (m : Machine) :
      { m with screen := { m.screen with wrap := true } }.register flagRegister =
        m.register flagRegister := rfl
  obtain ⟨same, -⟩ := edges_never_met cornerDots true 2 inside
  refine ⟨inside, ?_⟩
  -- The machines stay closed, or the comparison of the two would run them.
  rewrite [(same 2 (Nat.le_refl 2)).1, kept]
  exact darkened

end ChipEight.Machine
