/-!
# Results that may be errors

How a chain of steps that may fail opens at its first step.
-/

namespace ChipEight

variable {ε α β : Type}

-- The brackets around `rfl` make `simp` apply these as it applies other lemmas. Used as
-- definitional equations they would leave it to the kernel to run the range checks in a chain.

@[simp] theorem ok_bind (a : α) (f : α → Except ε β) : (Except.ok a >>= f) = f a := (rfl)

@[simp] theorem map_ok (f : α → β) (a : α) : (Except.ok a : Except ε α).map f = .ok (f a) := (rfl)

@[simp] theorem mapError_ok {ε' : Type} (f : ε → ε') (a : α) :
    (Except.ok a : Except ε α).mapError f = .ok a := (rfl)

@[simp] theorem mapError_error {ε' : Type} (f : ε → ε') (e : ε) :
    (Except.error e : Except ε α).mapError f = .error (f e) := (rfl)

@[simp] theorem pure_eq_ok (a : α) : (pure a : Except ε α) = .ok a := (rfl)

theorem bind_eq_ok {x : Except ε α} {f : α → Except ε β} {b : β} :
    (x >>= f) = .ok b ↔ ∃ a, x = .ok a ∧ f a = .ok b := by
  cases x <;> simp [bind, Except.bind]

theorem bind_eq_error {x : Except ε α} {f : α → Except ε β} {e : ε} :
    (x >>= f) = .error e ↔ x = .error e ∨ ∃ a, x = .ok a ∧ f a = .error e := by
  cases x <;> simp [bind, Except.bind]

theorem map_eq_ok {x : Except ε α} {f : α → β} {b : β} :
    x.map f = .ok b ↔ ∃ a, x = .ok a ∧ f a = b := by
  cases x <;> simp [Except.map]

theorem mapError_eq_ok {ε' : Type} {x : Except ε α} {f : ε → ε'} {a : α} :
    x.mapError f = .ok a ↔ x = .ok a := by
  cases x with
  | error e => exact ⟨fun never => (nomatch never), fun never => (nomatch never)⟩
  | ok b => rw [mapError_ok, Except.ok.injEq, Except.ok.injEq]

theorem mapError_eq_error {ε' : Type} {x : Except ε α} {f : ε → ε'} {e' : ε'} :
    x.mapError f = .error e' ↔ ∃ e, x = .error e ∧ f e = e' := by
  cases x <;> simp

theorem map_eq_error {x : Except ε α} {f : α → β} {e : ε} : x.map f = .error e ↔ x = .error e := by
  cases x <;> simp [Except.map]

theorem mapM_append_eq_ok {f : α → Except ε β} {xs ys : List α} {bs : List β} :
    (xs ++ ys).mapM f = .ok bs ↔
      ∃ front back, xs.mapM f = .ok front ∧ ys.mapM f = .ok back ∧ front ++ back = bs := by
  rw [List.mapM_append]
  simp only [bind_eq_ok, pure_eq_ok, Except.ok.injEq, exists_and_left]

theorem mapM_cons_eq_ok {f : α → Except ε β} {x : α} {xs : List α} {bs : List β} :
    (x :: xs).mapM f = .ok bs ↔
      ∃ b rest, f x = .ok b ∧ xs.mapM f = .ok rest ∧ b :: rest = bs := by
  rw [List.mapM_cons]
  simp only [bind_eq_ok, pure_eq_ok, Except.ok.injEq, exists_and_left]

/-- A list fails at its first element that fails. -/
theorem mapM_eq_error {f : α → Except ε β} {xs : List α} {e : ε} :
    xs.mapM f = .error e ↔ ∃ front x back bs,
      xs = front ++ x :: back ∧ front.mapM f = .ok bs ∧ f x = .error e := by
  induction xs with
  | nil => simp
  | cons y ys ih =>
    rw [List.mapM_cons, bind_eq_error]
    simp only [bind_eq_error, pure_eq_ok, reduceCtorEq, and_false, exists_false, or_false, ih]
    constructor
    · rintro (fails | ⟨b, goes, front, x, back, bs, rfl, before, fails⟩)
      · exact ⟨[], y, ys, [], rfl, rfl, fails⟩
      · exact ⟨y :: front, x, back, b :: bs, rfl,
          mapM_cons_eq_ok.mpr ⟨b, bs, goes, before, rfl⟩, fails⟩
    · rintro ⟨front, x, back, bs, cut, before, fails⟩
      cases front with
      | nil =>
        obtain ⟨rfl, rfl⟩ := List.cons.inj cut
        exact .inl fails
      | cons y' front =>
        obtain ⟨rfl, rfl⟩ := List.cons.inj cut
        obtain ⟨b, rest, goes, others, rfl⟩ := mapM_cons_eq_ok.mp before
        exact .inr ⟨b, goes, front, x, back, rest, rfl, others, fails⟩

theorem mapM_of_forall {f f' : α → Except ε β} {xs : List α} {bs : List β}
    (each : ∀ x b, f x = .ok b → f' x = .ok b) (mapped : xs.mapM f = .ok bs) :
    xs.mapM f' = .ok bs := by
  induction xs generalizing bs with
  | nil => exact mapped
  | cons x xs ih =>
    obtain ⟨b, rest, first, remaining, rfl⟩ := mapM_cons_eq_ok.mp mapped
    exact mapM_cons_eq_ok.mpr ⟨b, rest, each x b first, ih remaining, rfl⟩

/-- Where `f` goes through, `f'` goes through on what stands for its arguments, or fails with `e`
where `P` holds. -/
theorem mapM_map_or_error {ε' α' β' : Type} {f : α → Except ε β} {f' : α' → Except ε' β'}
    {g : α → α'} {h : β → β'} {P : Prop} {e : ε'} {xs : List α} {bs : List β}
    (each : ∀ x ∈ xs, ∀ b, f x = .ok b → f' (g x) = .ok (h b) ∨ P ∧ f' (g x) = .error e)
    (mapped : xs.mapM f = .ok bs) :
    (xs.map g).mapM f' = .ok (bs.map h) ∨ P ∧ (xs.map g).mapM f' = .error e := by
  induction xs generalizing bs with
  | nil =>
    cases mapped
    exact .inl rfl
  | cons x xs ih =>
    obtain ⟨own, others⟩ := List.forall_mem_cons.mp each
    obtain ⟨b, rest, first, remaining, rfl⟩ := mapM_cons_eq_ok.mp mapped
    rw [List.map_cons, List.mapM_cons]
    rcases own b first with made | ⟨holds, fails⟩
    · rw [made, ok_bind]
      rcases ih others remaining with made | ⟨holds, fails⟩
      · exact .inl (by rw [made, ok_bind, List.map_cons, pure_eq_ok])
      · exact .inr ⟨holds, by rw [fails]; rfl⟩
    · exact .inr ⟨holds, by rw [fails]; rfl⟩

theorem length_of_mapM {f : α → Except ε β} {xs : List α} {bs : List β}
    (mapped : xs.mapM f = .ok bs) : bs.length = xs.length := by
  induction xs generalizing bs with
  | nil =>
    cases mapped
    rfl
  | cons x xs ih =>
    obtain ⟨b, rest, -, each, rfl⟩ := mapM_cons_eq_ok.mp mapped
    rw [List.length_cons, List.length_cons, ih each]

end ChipEight
