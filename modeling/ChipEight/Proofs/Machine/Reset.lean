import ChipEight.Proofs.Machine.Calls

/-!
# Reset

A reset taken write by write leaves nothing of the machine but what it was made from, its seed and
its edges (`resetInPlace_eq`); and these two nothing that a host does can change (`origin_act`). So
a reset undoes any history.
-/

namespace ChipEight.Machine

variable {m m' : Machine}

/-- A reset, write by write. -/
def resetInPlace (m : Machine) : Machine :=
  let m := { m with
    registers := Vector.replicate 16 0, index := 0, pc := UInt16.ofNat programStart,
    stack := ⟨Vector.replicate stackDepth 0, 0, Nat.zero_le _⟩, delayTimer := 0, soundTimer := 0 }
  let m := (m.writeBytes 0 (List.replicate 4096 0)).writeBytes glyphStart glyphs.toList
  let m := { m with screen := m.screen.clear, random := .ofSeed m.seed }
  { m with state := .idle, flagSource := none, count := 0, last := none }

theorem resetInPlace_eq (m : Machine) : m.resetInPlace = powerOn m.seed m.screen.wrap := by
  have memory := m.memory.writeBytes_glyphs
  unfold resetInPlace writeBytes powerOn
  dsimp only
  rw [memory]
  rfl

/-! ### What a machine is made from -/

/-- The seed and the edges of a machine, with which it was switched on. -/
def origin (m : Machine) : Int × Bool := (m.seed, m.screen.wrap)

/-! ### Steps -/

theorem origin_of_frame {framed : Machine} (frame : m' = framed)
    (same : framed.origin = m.origin) : m'.origin = m.origin :=
  frame ▸ same

theorem origin_of_effect (effect : m.Effect m') : m'.origin = m.origin := by
  unfold Effect at effect
  dsimp only at effect
  cases op : classify m.nextWord <;> simp only [op] at effect
  case finish => exact origin_of_frame effect rfl
  case clear =>
    obtain ⟨frame, -, wrap, -⟩ := effect
    have seed : m'.seed = m.seed := by
      rw [frame]
      rfl
    rw [origin, seed, wrap]
    rfl
  case draw =>
    refine origin_of_frame effect.1 ?_
    exact congrArg (m.seed, ·) (Framebuffer.wrap_blit _ _ _ _)
  case sys | jump | skipEqByte | skipNeByte | skipEqReg | skipNeReg | jumpOffset | ret | call |
      loadByte | addByte | loadReg | or | and | xor | addReg | sub | subFrom | shiftRight |
      shiftLeft | loadIndex | random =>
    exact origin_of_frame effect.1 rfl

theorem origin_step (m : Machine) : m.step.machine.origin = m.origin := by
  by_cases done : m.step.result = .ok true
  · obtain ⟨active, free⟩ := free_of_step_ok done
    exact origin_of_effect (step_effect active free)
  · exact step_kept_of_not_ok origin (fun _ _ _ _ _ => rfl) done

theorem origin_run (m : Machine) (limit : Nat) : (m.run limit).machine.origin = m.origin :=
  run_preserves (P := fun m' => m'.origin = m.origin)
    (fun m' kept => (origin_step m').trans kept) rfl limit

theorem origin_perform_frame {operation : Operation} (no_step : operation ≠ .step)
    (no_run : ∀ limit, operation ≠ .run limit) (no_reset : operation ≠ .reset) :
    (m.perform operation).origin = m.origin := by
  obtain ⟨memory, pc, count, state, same⟩ := perform_frame m no_step no_run no_reset
  exact origin_of_frame same rfl

theorem origin_perform (m : Machine) (operation : Operation) :
    (m.perform operation).origin = m.origin := by
  cases operation with
  | step => exact origin_step m
  | run limit => exact origin_run m limit.toNat
  | reset => rfl
  | _ => exact origin_perform_frame (by simp) (by simp) (by simp)

/-! ### Hosts -/

/-- What a host can do to a machine: ask it for an operation, or write to a part of it. -/
inductive HostAction where
  | operation (operation : Operation)
  | storeRegister (x : Register) (value : UInt8)
  | storeIndex (value : UInt16)
  | storePc (value : UInt16)
  | storeTimers (delay sound : Int)
  | clear
  | fill
  /-- With bits of another generator or of the machine's own. -/
  | randomize (other : Option Random.Generator)
  | setPixel (x y : Int) (lit : Bool)
  | blit (x y : Int) (sprite : List UInt8)

/-- The machine with another screen, and its generator past the bits drawn for it. -/
def redraw (m : Machine) (drawn : Framebuffer 64 32 × Random.Generator) : Machine :=
  { m with screen := drawn.1, random := drawn.2 }

/-- The machine after a host's action, whether it succeeds or not. -/
def act (m : Machine) : HostAction → Machine
  | .operation operation => m.perform operation
  | .storeRegister x value => m.setRegister x value
  | .storeIndex value => { m with index := value }
  | .storePc value => { m with pc := value }
  | .storeTimers delay sound => { m with delayTimer := delay, soundTimer := sound }
  | .clear => { m with screen := m.screen.clear }
  | .fill => { m with screen := m.screen.fill }
  | .randomize (some other) => { m with screen := (m.screen.randomize other).1 }
  | .randomize none => m.redraw (m.screen.randomize m.random)
  | .setPixel x y lit =>
    match m.screen.set x y lit with
    | .ok screen => { m with screen }
    | .error _ => m
  | .blit x y sprite =>
    match m.screen.draw x y sprite with
    | .ok (screen, _) => { m with screen }
    | .error _ => m

def actAll (m : Machine) (actions : List HostAction) : Machine := actions.foldl act m

theorem origin_screen (m : Machine) {screen : Screen} (same : screen.wrap = m.screen.wrap) :
    { m with screen }.origin = m.origin :=
  congrArg (m.seed, ·) same

theorem origin_redraw (m : Machine) (drawn : Framebuffer 64 32 × Random.Generator)
    (same : drawn.1.wrap = m.screen.wrap) : (m.redraw drawn).origin = m.origin :=
  congrArg (m.seed, ·) same

theorem origin_act (m : Machine) (action : HostAction) : (m.act action).origin = m.origin := by
  cases action with
  | operation operation => exact origin_perform m operation
  | storeRegister x value => rfl
  | storeIndex value => rfl
  | storePc value => rfl
  | storeTimers delay sound => rfl
  | clear => rfl
  | fill => rfl
  | randomize other =>
    cases other with
    | none => exact origin_redraw m _ (Framebuffer.wrap_randomize m.screen m.random)
    | some other => exact origin_screen m (Framebuffer.wrap_randomize m.screen other)
  | setPixel x y lit =>
    unfold act
    dsimp only
    split
    · rename_i screen stored
      exact origin_screen m (Framebuffer.wrap_set stored)
    · rfl
  | blit x y sprite =>
    have drawn := m.screen.draw_eq_blit x y sprite (by decide) (by decide)
    unfold act
    dsimp only
    rw [drawn]
    exact origin_screen m (Framebuffer.wrap_blit m.screen x y sprite)

theorem origin_actAll (m : Machine) (actions : List HostAction) :
    (m.actAll actions).origin = m.origin := by
  unfold actAll
  induction actions generalizing m with
  | nil => rfl
  | cons action actions ih => rw [List.foldl_cons, ih, origin_act]

theorem powerOn_of_origin {seed : Int} {wrap : Bool} (same : m.origin = (powerOn seed wrap).origin) :
    powerOn m.seed m.screen.wrap = powerOn seed wrap :=
  congrArg (fun origin : Int × Bool => powerOn origin.1 origin.2) same

/-- A reset undoes any history. -/
theorem resetInPlace_actAll (seed : Int) (wrap : Bool) (actions : List HostAction) :
    ((powerOn seed wrap).actAll actions).resetInPlace = powerOn seed wrap := by
  rw [resetInPlace_eq, powerOn_of_origin (origin_actAll _ actions)]

end ChipEight.Machine
