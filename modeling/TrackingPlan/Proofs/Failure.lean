import TrackingPlan.Proofs.Steps

/-!
# Where steps fail

A sequence of steps fails where its first failing step does, and in the same way. So two sequences
that do different things fail alike when the same step is the first one to fail in both.

Key definitions: `failure?`, `Parallel`, `Breaks`, `Throws`.
Key theorems: `failure?_mapM`, `mapM_eq_error`, `bind_eq_error`, `failure?_bind_of_ok`,
`Parallel.bind_eq`, `Parallel.bind`, `Parallel.mapM`, `Breaks.mapM`, `Throws.bind`, `Throws.mapM`.
-/

namespace TrackingPlan
namespace Steps

variable {ε α β : Type}

/-- Why a step fails, if it does. -/
def failure? : Except ε α → Option ε
  | .ok _ => none
  | .error e => some e

@[simp] theorem failure?_ok (a : α) : failure? (.ok a : Except ε α) = none := rfl

@[simp] theorem failure?_error (e : ε) : failure? (.error e : Except ε α) = some e := rfl

theorem failure?_eq_none {x : Except ε α} : failure? x = none ↔ ∃ a, x = .ok a := by
  cases x <;> simp

theorem failure?_eq_some {x : Except ε α} {e : ε} : failure? x = some e ↔ x = .error e := by
  cases x <;> simp

/-- Steps that agree on their failure both fail with it or both give a result. -/
theorem cases_of_failure?_eq {x : Except ε α} {y : Except ε β} (h : failure? x = failure? y) :
    (∃ e, x = .error e ∧ y = .error e) ∨ ∃ a b, x = .ok a ∧ y = .ok b := by
  cases x with
  | error e => exact .inl ⟨e, rfl, failure?_eq_some.mp h.symm⟩
  | ok a =>
    obtain ⟨b, hb⟩ := failure?_eq_none.mp h.symm
    exact .inr ⟨a, b, rfl, hb⟩

theorem pure_ne_error {a : α} {e : ε} : (pure a : Except ε α) ≠ .error e := by
  simp [pure, Except.pure]

theorem throw_eq_error {e e' : ε} : (throw e : Except ε α) = .error e' ↔ e = e' :=
  ⟨Except.error.inj, congrArg Except.error⟩

theorem bind_of_ok {x : Except ε α} {a : α} (h : x = .ok a) (f : α → Except ε β) :
    x >>= f = f a := by
  rw [h]
  rfl

theorem bind_eq_error {x : Except ε α} {f : α → Except ε β} {e : ε} :
    (x >>= f) = .error e ↔ x = .error e ∨ ∃ a, x = .ok a ∧ f a = .error e := by
  cases x <;> simp [bind, Except.bind]

theorem map_eq_error {x : Except ε α} {f : α → β} {e : ε} :
    x.map f = .error e ↔ x = .error e := by
  cases x <;> simp [Except.map]

theorem mapError_eq_error {ε' : Type} {f : ε → ε'} {x : Except ε α} {e : ε'} :
    x.mapError f = .error e ↔ ∃ cause, x = .error cause ∧ f cause = e := by
  cases x <;> simp [Except.mapError]

theorem failure?_bind (x : Except ε α) (f : α → Except ε β) : failure? (x >>= f) =
    match x with
    | .ok a => failure? (f a)
    | .error e => some e := by
  cases x <;> rfl

/-- What follows a step is no reason to fail when it never fails itself. -/
theorem failure?_bind_of_ok {x : Except ε α} {f : α → Except ε β}
    (hf : ∀ a, x = .ok a → failure? (f a) = none) : failure? (x >>= f) = failure? x := by
  cases x with
  | error e => rfl
  | ok a => exact hf a rfl

/-- **A step for every item fails where the first failing item does.** -/
theorem failure?_mapM (f : α → Except ε β) (xs : List α) :
    failure? (xs.mapM f) = xs.findSome? fun x => failure? (f x) := by
  induction xs with
  | nil => rfl
  | cons x xs ih =>
    rw [List.mapM_cons, failure?_bind, List.findSome?_cons]
    cases f x with
    | error e => rfl
    | ok y =>
      show failure? (xs.mapM f >>= fun ys => pure (y :: ys)) = _
      rw [failure?_bind_of_ok fun ys _ => rfl, ih]
      rfl

/-- **The first failing item is the reason**: all items before it give a result. -/
theorem mapM_eq_error {f : α → Except ε β} {xs : List α} {e : ε} :
    xs.mapM f = .error e ↔ ∃ before x after, xs = before ++ x :: after ∧ f x = .error e ∧
      ∀ y ∈ before, ∃ b, f y = .ok b := by
  rw [← failure?_eq_some, failure?_mapM, List.findSome?_eq_some_iff]
  simp only [failure?_eq_some, failure?_eq_none]

/-- A step for every item gives a list of results exactly when each item gives one. -/
theorem exists_mapM_iff {f : α → Except ε β} {xs : List α} :
    (∃ ys, xs.mapM f = .ok ys) ↔ ∀ x ∈ xs, ∃ y, f x = .ok y := by
  rw [← failure?_eq_none, failure?_mapM, List.findSome?_eq_none_iff]
  simp only [failure?_eq_none]

theorem failure?_optionMapM (f : α → Except ε β) (x : Option α) :
    failure? (x.mapM f) = x.bind fun a => failure? (f a) := by
  cases x with
  | none => rfl
  | some a => exact failure?_bind_of_ok fun b _ => rfl

/-! ### Steps that go the same way -/

/-- Two steps fail in the same way, or both give results, which are related. -/
inductive Parallel (R : α → β → Prop) : Except ε α → Except ε β → Prop
  | error (e : ε) : Parallel R (.error e) (.error e)
  | ok {a : α} {b : β} : R a b → Parallel R (.ok a) (.ok b)

theorem Parallel.refl {R : α → α → Prop} {x : Except ε α} (h : ∀ a, R a a) : Parallel R x x := by
  cases x with
  | error e => exact .error e
  | ok a => exact .ok (h a)

variable {γ δ : Type} {R : α → β → Prop} {S : γ → δ → Prop}

/-- Sequences that do the same with related results are the same. -/
theorem Parallel.bind_eq {x : Except ε α} {y : Except ε β} {f : α → Except ε γ}
    {g : β → Except ε γ} (h : Parallel R x y) (hfg : ∀ a b, R a b → f a = g b) :
    x >>= f = y >>= g := by
  cases h with
  | error e => rfl
  | ok hab => exact hfg _ _ hab

/-- What follows two steps goes the same way if it does for related results. -/
theorem Parallel.bind {x : Except ε α} {y : Except ε β} {f : α → Except ε γ} {g : β → Except ε δ}
    (h : Parallel R x y) (hfg : ∀ a b, R a b → Parallel S (f a) (g b)) :
    Parallel S (x >>= f) (y >>= g) := by
  cases h with
  | error e => exact .error e
  | ok hab => exact hfg _ _ hab

/-- What follows the same step goes the same way if it does for each of its results. -/
theorem Parallel.bind_left {x : Except ε α} {f : α → Except ε γ} {g : α → Except ε δ}
    (hfg : ∀ a, Parallel S (f a) (g a)) : Parallel S (x >>= f) (x >>= g) :=
  (refl fun _ => rfl : Parallel Eq x x).bind fun a _ hab => hab ▸ hfg a

/-- Steps for the items of a list go the same way if they do for each of its items. -/
theorem Parallel.mapM {f : α → Except ε γ} {g : α → Except ε δ} :
    ∀ {xs : List α}, (∀ a ∈ xs, Parallel S (f a) (g a)) →
      Parallel (List.Forall₂ S) (xs.mapM f) (xs.mapM g)
  | [], _ => .ok .nil
  | x :: xs, h => by
    obtain ⟨hx, hxs⟩ := List.forall_mem_cons.mp h
    rw [List.mapM_cons, List.mapM_cons]
    exact hx.bind fun _ _ hfirst => (mapM hxs).bind fun _ _ hrest => .ok (.cons hfirst hrest)

theorem Parallel.mono {R' : α → β → Prop} {x : Except ε α} {y : Except ε β} (h : Parallel R x y)
    (hR : ∀ {a b}, R a b → R' a b) : Parallel R' x y := by
  cases h with
  | error e => exact .error e
  | ok hab => exact .ok (hR hab)

/-- More may be said of the results of the first step. -/
theorem Parallel.and_left {x : Except ε α} {y : Except ε β} {P : α → Prop} (h : Parallel R x y)
    (hP : ∀ a, x = .ok a → P a) : Parallel (fun a b => P a ∧ R a b) x y := by
  cases h with
  | error e => exact .error e
  | ok hab => exact .ok ⟨hP _ rfl, hab⟩

/-! ### A step that fails where another need not -/

/-- The second step fails, either for the given reason or in the same way as the first one. -/
def Breaks (reason : ε) (x : Except ε α) (y : Except ε β) : Prop :=
  y = .error reason ∨ ∃ e, x = .error e ∧ y = .error e

section Breaks

variable {reason : ε} {x : Except ε α} {y : Except ε β}

theorem Breaks.bind {f : α → Except ε γ} {g : β → Except ε δ} (h : Breaks reason x y) :
    Breaks reason (x >>= f) (y >>= g) := by
  rcases h with rfl | ⟨e, rfl, rfl⟩
  · exact .inl rfl
  · exact .inr ⟨e, rfl, rfl⟩

/-- Of two steps that go the same way the second one fails if what follows it does. -/
theorem Parallel.breaks {f : α → Except ε γ} {g : β → Except ε δ} (h : Parallel R x y)
    (hfg : ∀ a b, R a b → Breaks reason (f a) (g b)) : Breaks reason (x >>= f) (y >>= g) := by
  cases h with
  | error e => exact .inr ⟨e, rfl, rfl⟩
  | ok hab => exact hfg _ _ hab

theorem Breaks.bind_left {f : α → Except ε γ} {g : α → Except ε δ}
    (hfg : ∀ a, Breaks reason (f a) (g a)) : Breaks reason (x >>= f) (x >>= g) :=
  (Parallel.refl fun _ => rfl : Parallel Eq x x).breaks fun a _ hab => hab ▸ hfg a

/-- The second steps for the items of a list fail when there is an item at which they do, if they go
the same way as the first ones at all others. -/
theorem Breaks.mapM {f : α → Except ε γ} {g : α → Except ε δ} {p : α → Prop}
    (hbreaks : ∀ a, p a → Breaks reason (f a) (g a))
    (hparallel : ∀ a, ¬ p a → Parallel S (f a) (g a)) :
    ∀ {xs : List α}, (∃ a ∈ xs, p a) → Breaks reason (xs.mapM f) (xs.mapM g)
  | [], hexists => by
    obtain ⟨_, ha, -⟩ := hexists
    exact absurd ha List.not_mem_nil
  | x :: xs, hexists => by
    rw [List.mapM_cons, List.mapM_cons]
    by_cases hx : p x
    · exact (hbreaks x hx).bind
    · have hrest : ∃ a ∈ xs, p a := (List.exists_mem_cons_iff p x xs).mp hexists |>.resolve_left hx
      exact (hparallel x hx).breaks fun _ _ _ => (mapM hbreaks hparallel hrest).bind

end Breaks

/-! ### Steps that fail for some reasons only -/

/-- Every failure of a step is of the given kind. -/
def Throws (P : ε → Prop) (x : Except ε α) : Prop := ∀ e, x = .error e → P e

namespace Throws

variable {P : ε → Prop}

theorem ok (a : α) : Throws P (.ok a) := fun _ h => nomatch h

theorem error {e : ε} (h : P e) : Throws P (.error e : Except ε α) :=
  fun _ he => Except.error.inj he ▸ h

theorem bind {x : Except ε α} {f : α → Except ε β} (hx : Throws P x) (hf : ∀ a, Throws P (f a)) :
    Throws P (x >>= f) := by
  cases x with
  | error e => exact error (hx e rfl)
  | ok a => exact hf a

/-- What follows a step may suppose that the step gave its result. -/
theorem bind_of_ok {x : Except ε α} {f : α → Except ε β} (hx : Throws P x)
    (hf : ∀ a, x = .ok a → Throws P (f a)) : Throws P (x >>= f) := by
  cases x with
  | error e => exact error (hx e rfl)
  | ok a => exact hf a rfl

theorem mapM {f : α → Except ε β} (hf : ∀ a, Throws P (f a)) : ∀ xs : List α, Throws P (xs.mapM f)
  | [] => ok []
  | x :: xs => by
    rw [List.mapM_cons]
    exact (hf x).bind fun _ => (mapM hf xs).bind fun _ => ok _

end Throws
end Steps
end TrackingPlan
