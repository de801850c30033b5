import ChipEight.Proofs.Framebuffer.Order
import ChipEight.Proofs.Machine.Stepping

/-!
# Instructions that draw, in another order

A draw reads two registers, the index register and the memory, and writes the screen and the flag
register (`drawn_stepAt`). As long as no draw takes a coordinate from the flag register, the draws
that follow see the same sprites at the same places, whatever was drawn before them.
-/

namespace ChipEight.Machine

open Framebuffer (Placement)

variable {m m₁ m₂ m' : Machine} {a b v w : UInt16}

/-- The step that the machine takes from the address `a`. -/
def stepAt (m : Machine) (a : UInt16) : Outcome Bool := { m with pc := a }.step

/-- The sprite that the word `w` draws, and where. -/
def placement (m : Machine) (w : UInt16) : Placement where
  x := (m.register (fieldX w)).toNat
  y := (m.register (fieldY w)).toNat
  sprite := m.memory.readBytes m.index.toNat (fieldN w).val

/-- At the address `a` stands the word `w`, which draws at a place that the flag has no part in. -/
structure DrawsAt (m : Machine) (a w : UInt16) : Prop where
  whole : a.toNat ≤ 0xFFE
  word : { m with pc := a }.nextWord = w
  draws : classify w = .draw
  left : fieldX w ≠ flagRegister
  top : fieldY w ≠ flagRegister

/-- From one machine to the other the screen has become `screen`. If a lit pixel has been darkened
on the way, the flag tells of it. -/
structure Drawn (m : Machine) (screen : Screen) (darkened : Bool) (m' : Machine) : Prop where
  screen : m'.screen = screen
  flag : m'.register flagRegister = if darkened then 1 else m.register flagRegister
  flagSource : m'.flagSource = if darkened then some .draw else m.flagSource
  others : ∀ r, r ≠ flagRegister → m'.register r = m.register r
  memory : m'.memory = m.memory
  index : m'.index = m.index
  running : m'.state = .running

theorem Drawn.trans {s₁ s₂ : Screen} {c₁ c₂ : Bool} (first : m.Drawn s₁ c₁ m₁)
    (second : m₁.Drawn s₂ c₂ m₂) : m.Drawn s₂ (c₁ || c₂) m₂ where
  screen := second.screen
  flag := by
    rw [second.flag, first.flag]
    cases c₁ <;> cases c₂ <;> rfl
  flagSource := by
    rw [second.flagSource, first.flagSource]
    cases c₁ <;> cases c₂ <;> rfl
  others r other := (second.others r other).trans (first.others r other)
  memory := second.memory.trans first.memory
  index := second.index.trans first.index
  running := second.running

theorem Drawn.placement_eq {s : Screen} {c : Bool} (drawn : m.Drawn s c m')
    (left : fieldX w ≠ flagRegister) (top : fieldY w ≠ flagRegister) :
    m'.placement w = m.placement w := by
  rw [placement, placement, drawn.others _ left, drawn.others _ top, drawn.memory, drawn.index]

theorem Drawn.drawsAt {s : Screen} {c : Bool} (drawn : m.Drawn s c m') (here : m.DrawsAt a w) :
    m'.DrawsAt a w where
  whole := here.whole
  word := by
    rw [← here.word]
    show wordOfBytes (m'.memory.read _) (m'.memory.read _) = _
    rw [drawn.memory]
    rfl
  draws := here.draws
  left := here.left
  top := here.top

theorem Drawn.active {s : Screen} {c : Bool} (drawn : m.Drawn s c m') : m'.isStopped = false :=
  isStopped_eq_false.mpr (.inr drawn.running)

/-! ### Steps -/

theorem drawn_of_draws {x y n : Nat} (draws : m.Draws m' x y n) :
    let blit := m.screen.blit x y (m.memory.readBytes m.index.toNat n)
    m.Drawn blit.1 blit.2 m' := by
  unfold Draws at draws
  rw [← Memory.readBytes_natCast] at draws
  dsimp only at draws ⊢
  generalize m.screen.blit x y (m.memory.readBytes m.index.toNat n) = blit at draws ⊢
  obtain ⟨frame, -, flag, others⟩ := draws
  have raised : m'.register flagRegister = if blit.2 then 1 else m.register flagRegister := by
    apply UInt8.toNat_inj.mp
    rw [flag]
    split <;> rfl
  exact ⟨by rw [frame], raised, by rw [frame], others, by rw [frame]; rfl, by rw [frame]; rfl,
    by rw [frame]; rfl⟩

theorem dueFault?_eq_none_of_draw (whole : m.pc.toNat ≤ 0xFFE)
    (draws : classify m.nextWord = .draw) : m.dueFault? = none := by
  have left : ¬0xFFE < m.pc.toNat := Nat.not_lt.mpr whole
  simp [dueFault?, left, draws, Op.hasDestination]

theorem drawn_stepAt (active : m.isStopped = false) (here : m.DrawsAt a w) :
    let placed := m.placement w
    let blit := m.screen.blit placed.x placed.y placed.sprite
    (m.stepAt a).result = .ok true ∧ (m.stepAt a).machine.pc = a + 2 ∧
      m.Drawn blit.1 blit.2 (m.stepAt a).machine := by
  obtain ⟨whole, word, draws, -, -⟩ := here
  have free : { m with pc := a }.dueFault? = none := dueFault?_eq_none_of_draw whole (word ▸ draws)
  have result := step_result (m := { m with pc := a }) active
  have effect := step_effect (m := { m with pc := a }) active free
  rw [free] at result
  unfold Effect at effect
  simp only [word, draws] at effect
  have next : (m.stepAt a).machine.pc = a + 2 := by
    apply UInt16.toNat_inj.mp
    rw [UInt16.toNat_add]
    exact effect.2.1.trans (Nat.mod_eq_of_lt (by show a.toNat + 2 < 65536; omega)).symm
  obtain ⟨screen, flag, flagSource, others, memory, index, running⟩ := drawn_of_draws effect
  exact ⟨result, next, screen, flag, flagSource, others, memory, index, running⟩

theorem drawn_stepAt_stepAt (active : m.isStopped = false) (first : m.DrawsAt a v)
    (second : m.DrawsAt b w) :
    let once := m.stepAt a
    let twice := once.machine.stepAt b
    (once.result = .ok true ∧ twice.result = .ok true) ∧
    (b = a + 2 → once.machine.step = twice) ∧
    ∃ screen flags, m.screen.drawAll [m.placement v, m.placement w] = .ok (screen, flags) ∧
      m.Drawn screen flags.or twice.machine := by
  intro once twice
  obtain ⟨result₁, next, drawn₁⟩ := drawn_stepAt active first
  obtain ⟨result₂, -, drawn₂⟩ := drawn_stepAt drawn₁.active (drawn₁.drawsAt second)
  rw [drawn₁.placement_eq second.left second.top, drawn₁.screen] at drawn₂
  refine ⟨⟨result₁, result₂⟩, ?_, _, _,
    Framebuffer.drawAll_pair (by decide) (by decide) m.screen _ _, ?_⟩
  · intro adjacent
    show once.machine.step = once.machine.stepAt b
    rw [adjacent, ← next]
    rfl
  rw [List.or_cons, List.or_cons, List.or_nil, Bool.or_false]
  exact drawn₁.trans drawn₂

theorem registers_eq (flag : m.register flagRegister = m'.register flagRegister)
    (others : ∀ r, r ≠ flagRegister → m.register r = m'.register r) :
    m.registers = m'.registers := by
  apply Vector.ext
  intro i inside
  show m.register ⟨i, inside⟩ = m'.register ⟨i, inside⟩
  by_cases same : (⟨i, inside⟩ : Register) = flagRegister
  · rw [same, flag]
  · exact others _ same

/-- On a surface of any size, with either kind of edges, the order in which sprites are drawn has no
part in the pixels, nor in whether a lit pixel is darkened on the way, and all of them drawn twice
leave no trace. Two draws of a machine, neither of which takes a coordinate from the flag register,
lead to the same screen and the same flag in either order, be it that the machine goes from one
word to the other or that the words stand in another order; and a draw taken twice restores the
screen and raises the flag iff some set bit falls on it. -/
theorem drawing_order_is_free :
    (∀ {width height : Int} (fb : Framebuffer width height)
      {placements placements' : List Placement},
      1 ≤ width → 1 ≤ height → placements.Perm placements' →
      ∃ drawn flags flags' again,
        fb.drawAll placements = .ok (drawn, flags) ∧
        fb.drawAll placements' = .ok (drawn, flags') ∧ flags.or = flags'.or ∧
        fb.drawAll (placements ++ placements) = .ok (fb, again)) ∧
    (∀ (m m' : Machine) {a b a' b' v w : UInt16},
      m.isStopped = false → m'.isStopped = false →
      m.DrawsAt a v → m.DrawsAt b w → m'.DrawsAt b' w → m'.DrawsAt a' v →
      m'.registers = m.registers → m'.screen = m.screen → m'.flagSource = m.flagSource →
      m'.placement v = m.placement v → m'.placement w = m.placement w →
      let first := m.stepAt a
      let forth := first.machine.stepAt b
      let first' := m'.stepAt b'
      let back := first'.machine.stepAt a'
      (first.result = .ok true ∧ forth.result = .ok true) ∧
      (first'.result = .ok true ∧ back.result = .ok true) ∧
      back.machine.screen = forth.machine.screen ∧
      back.machine.registers = forth.machine.registers ∧
      back.machine.flagSource = forth.machine.flagSource ∧
      (b = a + 2 → first.machine.step = forth) ∧
      (a' = b' + 2 → first'.machine.step = back)) ∧
    ∀ (m : Machine) {a b w : UInt16}, m.isStopped = false → m.DrawsAt a w → m.DrawsAt b w →
      let once := m.stepAt a
      let twice := once.machine.stepAt b
      once.result = .ok true ∧ twice.result = .ok true ∧ twice.machine.screen = m.screen ∧
      (twice.machine.register flagRegister = 1 ↔
        m.register flagRegister = 1 ∨ m.screen.Meets (m.placement w)) := by
  refine ⟨?_, ?_, ?_⟩
  · intro width height fb placements placements' hw hh reordered
    obtain ⟨drawn, flags, flags', goes, goes', told⟩ := Framebuffer.drawAll_perm hw hh fb reordered
    obtain ⟨again, twice, -⟩ := Framebuffer.drawAll_twice hw hh fb placements
    exact ⟨drawn, flags, flags', again, goes, goes', told, twice⟩
  · intro m m' a b a' b' v w active active' here there there' here' registers screen source
      placed_v placed_w first forth first' back
    obtain ⟨results, adjacent, _, flags, goes, forth_drawn⟩ := drawn_stepAt_stepAt active here there
    obtain ⟨results', adjacent', _, flags', goes', back_drawn⟩ :=
      drawn_stepAt_stepAt active' there' here'
    rw [screen, placed_v, placed_w] at goes'
    obtain ⟨drawn, told, told', one, other, same⟩ :=
      Framebuffer.drawAll_perm (by decide) (by decide) m.screen
        (List.Perm.swap (m.placement w) (m.placement v) [])
    obtain ⟨rfl, rfl⟩ := Prod.mk.inj (Except.ok.inj (goes.symm.trans one))
    obtain ⟨rfl, rfl⟩ := Prod.mk.inj (Except.ok.inj (goes'.symm.trans other))
    have register (r : Register) : m'.register r = m.register r := by
      rw [Machine.register, registers]
      rfl
    refine ⟨results, results', back_drawn.screen.trans forth_drawn.screen.symm, ?_, ?_, adjacent,
      adjacent'⟩
    · apply registers_eq
      · rw [back_drawn.flag, forth_drawn.flag, same, register]
      · intro r other
        rw [back_drawn.others r other, forth_drawn.others r other, register]
    · rw [back_drawn.flagSource, forth_drawn.flagSource, same, source]
  · intro m a b w active here there once twice
    obtain ⟨⟨result, result'⟩, -, screen, flags, goes, drawn⟩ :=
      drawn_stepAt_stepAt active here there
    obtain ⟨flags', restored, told⟩ := Framebuffer.drawAll_twice (by decide) (by decide) m.screen
      [m.placement w]
    obtain ⟨rfl, rfl⟩ := Prod.mk.inj (Except.ok.inj (goes.symm.trans restored))
    refine ⟨result, result', drawn.screen, ?_⟩
    rw [drawn.flag, Framebuffer.meets_iff, ← told]
    cases flags.or <;> simp

/-- A machine that draws two rows, and one row across the second of them. -/
def crossingRows : Machine :=
  { powerOn 0 false with
    memory := Memory.writeBytes (Vector.replicate 4096 0) 0x200 [0xD0, 0x02, 0xD1, 0x11, 0xFF, 0x81]
    registers := Vector.ofFn fun r => if r.val = 1 then 1 else 0
    index := 0x204 }

/-- The two words are executed in their order and the other way round; and three sprites wrap around
a narrow surface. -/
theorem drawing_order_is_free_of_crossing_rows :
    let m := crossingRows
    let back := (m.stepAt 0x202).machine.stepAt 0x200
    let narrow := Framebuffer.dark 3 2 true
    let placements : List Placement := [⟨-1, 0, [0xFF]⟩, ⟨1, 1, [0x80, 0xC0]⟩, ⟨0, 5, [0x80]⟩]
    (m.DrawsAt 0x200 0xD002 ∧ m.DrawsAt 0x202 0xD111) ∧
    back.machine.screen = (m.stepAt 0x200).machine.step.machine.screen ∧
    back.machine.registers = (m.stepAt 0x200).machine.step.machine.registers ∧
    (((m.stepAt 0x202).machine.stepAt 0x202).machine.register flagRegister = 1 ↔
      m.register flagRegister = 1 ∨ m.screen.Meets (m.placement 0xD111)) ∧
    ((1 : Int) ≤ 3 ∧ (1 : Int) ≤ 2 ∧ placements.Perm placements.reverse) ∧
    ∃ again, narrow.drawAll (placements ++ placements) = .ok (narrow, again) := by
  intro m back narrow placements
  have here : m.DrawsAt 0x200 0xD002 :=
    ⟨by decide, by decide +kernel, by decide, by decide, by decide⟩
  have there : m.DrawsAt 0x202 0xD111 :=
    ⟨by decide, by decide +kernel, by decide, by decide, by decide⟩
  have active : m.isStopped = false := rfl
  have reordered : placements.Perm placements.reverse := (List.reverse_perm placements).symm
  obtain ⟨surface, orders, doubled⟩ := drawing_order_is_free
  obtain ⟨-, -, screen, registers, -, adjacent, -⟩ :=
    orders m m active active here there there here rfl rfl rfl rfl rfl
  obtain ⟨-, -, -, flag⟩ := doubled m active there there
  obtain ⟨-, -, -, again, -, -, -, restored⟩ := surface narrow (by decide) (by decide) reordered
  rw [adjacent (by decide)]
  exact ⟨⟨here, there⟩, screen, registers, flag, ⟨by decide, by decide, reordered⟩, again, restored⟩

end ChipEight.Machine
