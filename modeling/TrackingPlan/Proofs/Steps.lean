import Mathlib.Data.List.Forall2
import TrackingPlan.Python.Outline

/-!
# Sequences of steps

Two kinds of steps are put in sequence: steps that can fail, and steps that take names from
scopes. A sequence of the first kind gives a result exactly when each step does; a sequence of
the second kind hands the scopes from step to step.

Key theorems: `bind_eq_ok`, `mapM_eq_ok`, `bind_apply`, `mapM_apply_of_fixed`.
-/

namespace TrackingPlan
namespace Steps

variable {ε α β : Type}

/-! ### Steps that can fail -/

@[simp] theorem bind_eq_ok {x : Except ε α} {f : α → Except ε β} {b : β} :
    (x >>= f) = .ok b ↔ ∃ a, x = .ok a ∧ f a = .ok b := by
  cases x <;> simp [bind, Except.bind]

@[simp] theorem pure_eq_ok {a b : α} : (pure a : Except ε α) = .ok b ↔ a = b := by
  simp [pure, Except.pure]

@[simp] theorem throw_ne_ok {e : ε} {a : α} : (throw e : Except ε α) ≠ .ok a := by
  simp [throw, throwThe, MonadExceptOf.throw]

@[simp] theorem map_eq_ok {f : α → β} {x : Except ε α} {b : β} :
    x.map f = .ok b ↔ ∃ a, x = .ok a ∧ f a = b := by
  cases x <;> simp [Except.map]

@[simp] theorem mapError_eq_ok {ε' : Type} {f : ε → ε'} {x : Except ε α} {a : α} :
    x.mapError f = .ok a ↔ x = .ok a := by
  cases x <;> simp [Except.mapError]

/-- A test that refuses stands before everything else. -/
theorem refuse_eq_ok {c : Prop} [Decidable c] {e : ε} {x : Except ε α} {b : α} :
    (if c then (throw e >>= fun _ : PUnit => x) else x) = .ok b ↔ ¬ c ∧ x = .ok b := by
  by_cases h : c <;> simp [h]

theorem exists_of_isOk {x : Except ε α} (h : x.isOk) : ∃ a, x = .ok a := by
  cases x with
  | error e => exact nomatch h
  | ok a => exact ⟨a, rfl⟩

/-- A step for every item gives a list of results exactly when each item gives its own. -/
theorem mapM_eq_ok {f : α → Except ε β} : ∀ {xs : List α} {ys : List β},
    xs.mapM f = .ok ys ↔ List.Forall₂ (fun x y => f x = .ok y) xs ys
  | [], ys => by
    rw [List.mapM_nil, pure_eq_ok, List.forall₂_nil_left_iff]
    exact eq_comm
  | x :: xs, ys => by
    rw [List.mapM_cons, List.forall₂_cons_left_iff]
    simp only [bind_eq_ok, pure_eq_ok, mapM_eq_ok]
    constructor
    · rintro ⟨y, hy, rest, hrest, rfl⟩
      exact ⟨y, rest, hy, hrest, rfl⟩
    · rintro ⟨y, rest, hy, hrest, rfl⟩
      exact ⟨y, hy, rest, hrest, rfl⟩

/-- The same, when a step without a result gives no reason. -/
theorem mapM_eq_some {f : α → Option β} : ∀ {xs : List α} {ys : List β},
    xs.mapM f = some ys ↔ List.Forall₂ (fun x y => f x = some y) xs ys
  | [], ys => by
    rw [List.mapM_nil, List.forall₂_nil_left_iff]
    exact ⟨fun h => (Option.some.inj h).symm, fun h => h ▸ rfl⟩
  | x :: xs, ys => by
    rw [List.mapM_cons, List.forall₂_cons_left_iff]
    simp only [Option.bind_eq_bind, Option.bind_eq_some_iff, mapM_eq_some]
    constructor
    · rintro ⟨y, hy, rest, hrest, h⟩
      exact ⟨y, rest, hy, hrest, (Option.some.inj h).symm⟩
    · rintro ⟨y, rest, hy, hrest, rfl⟩
      exact ⟨y, hy, rest, hrest, rfl⟩

/-- A step for an item that may be missing. -/
theorem optionMapM_eq_ok {f : α → Except ε β} {x : Option α} {y : Option β} :
    x.mapM f = .ok y ↔ Option.Rel (fun a b => f a = .ok b) x y := by
  cases x with
  | none =>
    have hnone : (none : Option α).mapM f = .ok none := rfl
    cases y <;> simp [hnone]
  | some a =>
    have hsome : (some a).mapM f = (f a).map some := rfl
    cases h : f a <;> cases y <;> simp [hsome, h, Except.map]

/-! ### Steps that take names -/

open Python

theorem bind_apply (x : Names α) (f : α → Names β) (s : Scopes) :
    (x >>= f) s = f (x s).1 (x s).2 := rfl

theorem mapM_cons_apply (f : α → Names β) (x : α) (xs : List α) (s : Scopes) :
    (x :: xs).mapM f s =
      ((f x s).1 :: (xs.mapM f (f x s).2).1, (xs.mapM f (f x s).2).2) := by
  rw [List.mapM_cons]
  rfl

/-- Steps that find the scopes in a state that they all leave alone. -/
theorem mapM_apply_of_fixed {f : α → Names β} {g : α → β} {s : Scopes} : ∀ {xs : List α},
    (∀ x ∈ xs, f x s = (g x, s)) → xs.mapM f s = (xs.map g, s)
  | [], _ => rfl
  | x :: xs, h => by
    have hx : f x s = (g x, s) := h x List.mem_cons_self
    have hxs : xs.mapM f s = (xs.map g, s) :=
      mapM_apply_of_fixed fun y hy => h y (List.mem_cons_of_mem x hy)
    rw [mapM_cons_apply, hx, hxs, List.map_cons]

end Steps
end TrackingPlan
