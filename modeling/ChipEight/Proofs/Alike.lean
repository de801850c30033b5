import ChipEight.Proofs.Except
import Mathlib.Data.List.Forall2

/-!
# Results that are alike

Two chains of steps that may fail, one beside the other: both go through or both fail, and what they
come to corresponds. Being alike is kept from step to step and along two lists of arguments.
-/

namespace ChipEight

variable {ε ε' α α' β β' σ σ' : Type}

/-- Both are values or both are errors, and the two correspond. -/
inductive Alike (errors : ε → ε' → Prop) (values : α → α' → Prop) :
    Except ε α → Except ε' α' → Prop
  | ok {a : α} {a' : α'} (same : values a a') : Alike errors values (.ok a) (.ok a')
  | error {e : ε} {e' : ε'} (same : errors e e') : Alike errors values (.error e) (.error e')

namespace Alike

variable {errors : ε → ε' → Prop} {values : α → α' → Prop} {results : β → β' → Prop}

theorem refl (x : Except ε α) : Alike Eq Eq x x := by
  cases x with
  | ok a => exact .ok rfl
  | error e => exact .error rfl

theorem mono {looser : α → α' → Prop} {x : Except ε α} {x' : Except ε' α'}
    (alike : Alike errors values x x') (each : ∀ a a', values a a' → looser a a') :
    Alike errors looser x x' := by
  cases alike with
  | ok same => exact .ok (each _ _ same)
  | error same => exact .error same

/-- Two results that are alike to a third are alike, where this is so of errors and of values. -/
theorem of_shared {blames : ε → ε → Prop} {agrees : α → α → Prop} {x x' shared : Except ε α}
    (alike : Alike blames agrees x shared) (alike' : Alike blames agrees x' shared)
    (both : ∀ e e' f, blames e f → blames e' f → blames e e')
    (each : ∀ a a' b, agrees a b → agrees a' b → agrees a a') : Alike blames agrees x x' := by
  cases alike with
  | ok same =>
    cases alike' with
    | ok same' => exact .ok (each _ _ _ same same')
  | error same =>
    cases alike' with
    | error same' => exact .error (both _ _ _ same same')

theorem eq_ok_iff {x : Except ε α} {x' : Except ε' α} (alike : Alike (fun _ _ => True) Eq x x')
    {a : α} : x' = .ok a ↔ x = .ok a := by
  cases alike with
  | ok same => rw [same, Except.ok.injEq, Except.ok.injEq]
  | error => exact iff_of_false nofun nofun

/-- Without regard to errors, results are alike that give the same values. -/
theorem of_eq_ok_iff {x : Except ε α} {x' : Except ε' α} (same : ∀ a, x' = .ok a ↔ x = .ok a) :
    Alike (fun _ _ => True) Eq x x' := by
  cases x with
  | ok a =>
    rw [(same a).mpr rfl]
    exact .ok rfl
  | error e =>
    cases x' with
    | ok a => cases (same a).mp rfl
    | error e' => exact .error trivial

theorem bind {x : Except ε α} {x' : Except ε' α'} {f : α → Except ε β} {f' : α' → Except ε' β'}
    (first : Alike errors values x x')
    (rest : ∀ a a', values a a' → Alike errors results (f a) (f' a')) :
    Alike errors results (x >>= f) (x' >>= f') := by
  cases first with
  | ok same => exact rest _ _ same
  | error same => exact .error same

theorem map {x : Except ε α} {x' : Except ε' α'} {f : α → β} {f' : α' → β'}
    (alike : Alike errors values x x') (each : ∀ a a', values a a' → results (f a) (f' a')) :
    Alike errors results (x.map f) (x'.map f') := by
  cases alike with
  | ok same => exact .ok (each _ _ same)
  | error same => exact .error same

theorem mapError {ω ω' : Type} {blames : ω → ω' → Prop} {x : Except ε α} {x' : Except ε' α'}
    {f : ε → ω} {f' : ε' → ω'} (alike : Alike errors values x x')
    (each : ∀ e e', errors e e' → blames (f e) (f' e')) :
    Alike blames values (x.mapError f) (x'.mapError f') := by
  cases alike with
  | ok same => exact .ok same
  | error same => exact .error (each _ _ same)

variable {pairs : α → α' → Prop} {xs : List α} {xs' : List α'}

theorem mapM {f : α → Except ε β} {f' : α' → Except ε' β'} (paired : List.Forall₂ pairs xs xs')
    (each : ∀ x x', pairs x x' → Alike errors results (f x) (f' x')) :
    Alike errors (List.Forall₂ results) (xs.mapM f) (xs'.mapM f') := by
  induction paired with
  | nil => exact .ok .nil
  | cons first _ ih =>
    rw [List.mapM_cons, List.mapM_cons]
    exact (each _ _ first).bind fun b b' same => ih.bind fun bs bs' others =>
      .ok (.cons same others)

/-- Two states that correspond do so still after two lists of steps that correspond in pairs. -/
theorem foldlM {states : σ → σ' → Prop} {f : σ → α → Except ε σ} {f' : σ' → α' → Except ε' σ'}
    (paired : List.Forall₂ pairs xs xs')
    (each : ∀ s s' x x', states s s' → pairs x x' → Alike errors states (f s x) (f' s' x'))
    {s : σ} {s' : σ'} (start : states s s') :
    Alike errors states (xs.foldlM f s) (xs'.foldlM f' s') := by
  induction paired generalizing s s' with
  | nil => exact .ok start
  | cons first _ ih =>
    rw [List.foldlM_cons, List.foldlM_cons]
    exact (each _ _ _ _ start first).bind fun _ _ => ih

end Alike

end ChipEight
