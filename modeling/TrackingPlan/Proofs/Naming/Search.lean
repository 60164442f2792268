import Mathlib.Order.Bounds.Defs
import TrackingPlan.Proofs.Naming.Scope

/-!
# The search for a free name

A search looks at the base, then at the base with the suffix and 1, with 2, and so on, until a name
is free; nothing bounds its turns. The candidates are all different, and each turn finds one of them
taken, so that there are no more turns than taken names. What `resolve` gives is what the search
ends with: the base, or the first numbered name that is free.

Key definitions: `Scope.candidate`, `Scope.Search`, `Scope.Search.EndsIn`.
Key theorems: `Scope.candidate_injective`, `Scope.turns_le_card`, `Scope.resolve_searched`.
-/

namespace TrackingPlan
namespace Naming
namespace Scope

variable {used : List String} {base suffix : String} {turns : Nat}

/-! ### Candidates -/

/-- The name that a search looks at after a number of turns. -/
def candidate (base suffix : String) : Nat → String
  | 0 => base
  | k + 1 => numbered base suffix (k + 1)

theorem candidate_of_pos (base suffix : String) {k : Nat} (hk : 1 ≤ k) :
    candidate base suffix k = numbered base suffix k := by
  obtain ⟨k, rfl⟩ := Nat.exists_eq_add_of_le' hk
  rfl

/-- A number makes a name longer, even with an empty suffix. -/
theorem numbered_ne (base suffix : String) (k : Nat) : numbered base suffix k ≠ base := by
  intro h
  have hdigits : (toString k).length = 0 := by
    have hlength := congrArg String.length h
    rw [numbered, String.length_append, String.length_append] at hlength
    omega
  rw [Nat.toString_eq_repr, ← String.length_toList, Nat.toList_repr,
    List.length_eq_zero_iff] at hdigits
  exact Nat.toDigits_ne_nil hdigits

theorem candidate_injective (base suffix : String) :
    Function.Injective (candidate base suffix) := by
  intro a b h
  match a, b with
  | 0, 0 => rfl
  | 0, b + 1 => exact absurd h.symm (numbered_ne base suffix (b + 1))
  | a + 1, 0 => exact absurd h (numbered_ne base suffix (a + 1))
  | a + 1, b + 1 => exact numbered_injective base suffix h

/-- **As many candidates as are taken, so many names are taken.** -/
theorem turns_le_card (h : ∀ k < turns, candidate base suffix k ∈ used) :
    turns ≤ used.toFinset.card :=
  le_card_of_injective (candidate_injective base suffix) h

/-! ### The search -/

/-- A search at one of its turns: the name to look at, and the number for the next one. -/
structure Search where
  name : String
  number : Nat
  deriving DecidableEq, Repr

/-- The search after a turn, which goes on to the next number. -/
def Search.turn (search : Search) (base suffix : String) : Search where
  name := numbered base suffix search.number
  number := search.number + 1

/-- After a number of turns the search ends in a name: every turn was made because the name looked
at was taken, and that name is free. -/
inductive Search.EndsIn (used : List String) (base suffix : String) : Search → Nat → String → Prop
  | free {search : Search} : search.name ∉ used → EndsIn used base suffix search 0 search.name
  | taken {search : Search} {turns : Nat} {name : String} : search.name ∈ used →
    EndsIn used base suffix (search.turn base suffix) turns name →
    EndsIn used base suffix search (turns + 1) name

/-- A search goes through the candidates from one of them on, up to the first that is free. -/
theorem Search.endsIn_candidate_add : ∀ turns k : Nat,
    (∀ i < turns, candidate base suffix (k + i) ∈ used) →
    candidate base suffix (k + turns) ∉ used →
    EndsIn used base suffix ⟨candidate base suffix k, k + 1⟩ turns
      (candidate base suffix (k + turns))
  | 0, _, _, hfree => .free hfree
  | turns + 1, k, htaken, hfree => by
    have hsucc (i : Nat) : k + 1 + i = k + (i + 1) := by omega
    have hlater := endsIn_candidate_add turns (k + 1)
      (fun i hi => hsucc i ▸ htaken (i + 1) (Nat.succ_lt_succ hi)) (hsucc turns ▸ hfree)
    rw [hsucc turns] at hlater
    exact .taken (htaken 0 (Nat.succ_pos turns)) hlater

theorem Search.endsIn_candidate (htaken : ∀ k < turns, candidate base suffix k ∈ used)
    (hfree : candidate base suffix turns ∉ used) :
    EndsIn used base suffix ⟨base, 1⟩ turns (candidate base suffix turns) := by
  have hends := endsIn_candidate_add turns 0 (fun i hi => (Nat.zero_add i).symm ▸ htaken i hi)
    ((Nat.zero_add turns).symm ▸ hfree)
  simp only [Nat.zero_add] at hends
  exact hends

/-- A search has one end only. -/
theorem Search.EndsIn.unique {search : Search} {turns' : Nat} {name name' : String}
    (h : EndsIn used base suffix search turns name)
    (h' : EndsIn used base suffix search turns' name') : turns = turns' ∧ name = name' := by
  induction h generalizing turns' with
  | free hfree =>
    cases h' with
    | free => exact ⟨rfl, rfl⟩
    | taken htaken _ => exact absurd htaken hfree
  | taken htaken _ ih =>
    cases h' with
    | free hfree => exact absurd htaken hfree
    | taken _ hlater =>
      obtain ⟨rfl, rfl⟩ := ih hlater
      exact ⟨rfl, rfl⟩

/-! ### What is found -/

/-- A safe name is the first candidate that is free. -/
theorem exists_candidate (s : Scope) (name suffix : String) : ∃ turns,
    s.resolve name suffix = candidate (s.base name suffix) suffix turns ∧
      ∀ k < turns, candidate (s.base name suffix) suffix k ∈ s.used := by
  by_cases hbase : s.base name suffix ∈ s.used
  · obtain ⟨turns, hpos, -, hfound, htaken, -⟩ :=
      firstFree_eq s.used (s.base name suffix) suffix s.used.length 1
    refine ⟨turns, ?_, fun k hk => ?_⟩
    · rw [candidate_of_pos _ _ hpos, ← hfound]
      exact if_pos hbase
    · match k with
      | 0 => exact hbase
      | k + 1 => exact htaken (k + 1) (Nat.succ_pos k) hk
  · exact ⟨0, s.resolve_of_not_mem hbase, fun k hk => absurd hk (Nat.not_lt_zero k)⟩

/-- The first candidate that is free has the least number that makes the base free. -/
theorem isLeast_of_candidate (hpos : 1 ≤ turns)
    (htaken : ∀ k < turns, candidate base suffix k ∈ used)
    (hfree : candidate base suffix turns ∉ used) :
    IsLeast {k | 1 ≤ k ∧ numbered base suffix k ∉ used} turns := by
  refine ⟨⟨hpos, candidate_of_pos base suffix hpos ▸ hfree⟩, ?_⟩
  rintro k ⟨hk, hother⟩
  by_contra hlt
  rw [← candidate_of_pos base suffix hk] at hother
  exact hother (htaken k (Nat.lt_of_not_le hlt))

/-- **The search ends**, after no more turns than there are taken names, in the name that `resolve`
gives; and that is the base when it is free, and else the base with the least number from 1 on
that makes it free. -/
theorem resolve_searched (s : Scope) (name suffix : String) :
    let base := s.base name suffix
    ∃ turns ≤ s.used.toFinset.card,
      (∀ turns' found, Search.EndsIn s.used base suffix ⟨base, 1⟩ turns' found ↔
        turns' = turns ∧ found = s.resolve name suffix) ∧
      (base ∉ s.used ∧ turns = 0 ∧ s.resolve name suffix = base ∨
        base ∈ s.used ∧ IsLeast {k | 1 ≤ k ∧ base ++ suffix ++ toString k ∉ s.used} turns ∧
          s.resolve name suffix = base ++ suffix ++ toString turns) := by
  intro base
  obtain ⟨turns, hfound, htaken⟩ : ∃ turns, s.resolve name suffix = candidate base suffix turns ∧
    ∀ k < turns, candidate base suffix k ∈ s.used := s.exists_candidate name suffix
  have hfree : candidate base suffix turns ∉ s.used := hfound ▸ s.resolve_not_mem name suffix
  have hends := Search.endsIn_candidate htaken hfree
  refine ⟨turns, turns_le_card htaken, fun turns' found => ⟨fun h => ?_, ?_⟩, ?_⟩
  · rw [hfound]
    exact h.unique hends
  · rintro ⟨rfl, rfl⟩
    rwa [hfound]
  · rcases Nat.eq_zero_or_pos turns with rfl | hpos
    · exact .inl ⟨hfree, rfl, hfound⟩
    · refine .inr ⟨htaken 0 hpos, isLeast_of_candidate hpos htaken hfree, ?_⟩
      rw [hfound, candidate_of_pos base suffix hpos]
      rfl

/-- With an empty suffix the numbers follow the keyword itself, and skip what is taken. -/
example : resolve { keywords := ["class"], used := ["class2", "class", "class1", "class"] }
    "class" "" = "class3" := by decide +kernel

end Scope
end Naming
end TrackingPlan
