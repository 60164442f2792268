import Mathlib.Data.Finset.Card
import TrackingPlan.Naming.Scope
import TrackingPlan.Proofs.Assoc
import TrackingPlan.Proofs.Naming.Word

/-!
# What a scope hands out

The number that a taken name gets is the least one that makes it free, and as many tries as there
are taken names find it: the candidates are distinct, so that many of them and one more cannot all
be taken. Hence an answer is never a name that was taken before (`sanitize_cases`), and a scope
that is `Sound` keeps its answers apart: two requests have the same answer only if they are the
same request. A later scope `Extends` an earlier one: it remembers every answer, and its own
answers are none of the names that were taken.

Key definitions: `Scope.Sound`, `Scope.Extends`.
Key theorems: `Scope.firstFree_not_mem`, `Scope.sanitize_cases`, `Scope.Sound.sanitize`,
`Scope.extends_sanitize`.
-/

namespace TrackingPlan
namespace Naming
namespace Scope

/-! ### Numbers after a taken name -/

/-- The name that a number makes of a taken one. -/
def numbered (base suffix : String) (k : Nat) : String := base ++ suffix ++ toString k

theorem numbered_injective (base suffix : String) : Function.Injective (numbered base suffix) := by
  intro a b h
  have h1 : Nat.repr a = Nat.repr b := (String.append_right_inj _).mp h
  have h2 : Nat.toDigits 10 a = Nat.toDigits 10 b := by
    rw [← Nat.toList_repr, ← Nat.toList_repr, h1]
  rw [← Nat.ofDigitChars_ten_toDigits (n := a), h2, Nat.ofDigitChars_ten_toDigits]

/-- The search stops at some number: all candidates before it are taken, and it is free unless the
tries have run out. -/
theorem firstFree_eq (used : List String) (base suffix : String) : ∀ tries k : Nat,
    ∃ j, k ≤ j ∧ j ≤ k + tries ∧ firstFree used base suffix tries k = numbered base suffix j ∧
      (∀ i, k ≤ i → i < j → numbered base suffix i ∈ used) ∧
      (j < k + tries → numbered base suffix j ∉ used)
  | 0, k => ⟨k, Nat.le_refl _, Nat.le_refl _, rfl, fun i h1 h2 => absurd h1 (by omega),
    fun h => absurd h (by omega)⟩
  | tries + 1, k => by
    rw [firstFree]
    by_cases hk : numbered base suffix k ∈ used
    · obtain ⟨j, h1, h2, h3, h4, h5⟩ := firstFree_eq used base suffix tries (k + 1)
      refine ⟨j, by omega, by omega, ?_, ?_, fun h => h5 (by omega)⟩
      · exact (if_pos hk).trans h3
      · intro i hi hj
        rcases Nat.eq_or_lt_of_le hi with rfl | hi
        · exact hk
        · exact h4 i hi hj
    · exact ⟨k, Nat.le_refl _, by omega, if_neg hk, fun i h1 h2 => absurd h1 (by omega), fun _ => hk⟩

/-- Different names that are all taken are no more than there are taken names. -/
theorem le_card_of_injective {used : List String} {f : Nat → String} {n : Nat}
    (hf : Function.Injective f) (h : ∀ k < n, f k ∈ used) : n ≤ used.toFinset.card := by
  have hmaps : Set.MapsTo f (Finset.range n) used.toFinset :=
    fun k hk => List.mem_toFinset.mpr (h k (Finset.mem_range.mp hk))
  calc n = (Finset.range n).card := (Finset.card_range n).symm
    _ ≤ used.toFinset.card := Finset.card_le_card_of_injOn f hmaps hf.injOn

theorem exists_numbered_not_mem (used : List String) (base suffix : String) (k : Nat) :
    ∃ i, k ≤ i ∧ i ≤ k + used.length ∧ numbered base suffix i ∉ used := by
  by_contra hall
  push Not at hall
  have hinjective : Function.Injective fun i => numbered base suffix (k + i) :=
    fun _ _ h => Nat.add_left_cancel (numbered_injective base suffix h)
  have htaken : ∀ i < used.length + 1, numbered base suffix (k + i) ∈ used :=
    fun i hi => hall (k + i) (by omega) (by omega)
  have hle := (le_card_of_injective hinjective htaken).trans used.toFinset_card_le
  omega

/-- **The search finds a free name**: as many tries as there are taken names are enough. -/
theorem firstFree_not_mem (used : List String) (base suffix : String) (k : Nat) :
    firstFree used base suffix used.length k ∉ used := by
  obtain ⟨j, h1, h2, h3, h4, h5⟩ := firstFree_eq used base suffix used.length k
  obtain ⟨i, hi1, hi2, hi3⟩ := exists_numbered_not_mem used base suffix k
  rw [h3]
  by_cases hj : j < k + used.length
  · exact h5 hj
  · have hij : i = j := by
      by_contra hne
      exact hi3 (h4 i hi1 (by omega))
    exact hij ▸ hi3

/-! ### One answer -/

/-- A name as a scope asks for it first: with the suffix when it is a keyword or a builtin. -/
def base (s : Scope) (name suffix : String) : String :=
  if name ∈ s.keywords ∨ name ∈ s.builtins then name ++ suffix else name

/-- A name that no one has needs no number. -/
theorem resolve_of_not_mem (s : Scope) {name suffix : String} (h : s.base name suffix ∉ s.used) :
    s.resolve name suffix = s.base name suffix := if_neg h

theorem resolve_eq (s : Scope) (name suffix : String) :
    s.resolve name suffix = s.base name suffix ∧ s.base name suffix ∉ s.used ∨
      ∃ k, s.resolve name suffix = numbered (s.base name suffix) suffix k := by
  by_cases h : s.base name suffix ∈ s.used
  · obtain ⟨j, -, -, hj, -⟩ := firstFree_eq s.used (s.base name suffix) suffix s.used.length 1
    exact Or.inr ⟨j, (if_pos h).trans hj⟩
  · exact Or.inl ⟨s.resolve_of_not_mem h, h⟩

/-- A safe name is one that no one has. -/
theorem resolve_not_mem (s : Scope) (name suffix : String) : s.resolve name suffix ∉ s.used := by
  by_cases h : s.base name suffix ∈ s.used
  · have hr : s.resolve name suffix =
        firstFree s.used (s.base name suffix) suffix s.used.length 1 := if_pos h
    exact hr ▸ firstFree_not_mem s.used _ suffix 1
  · rwa [s.resolve_of_not_mem h]

/-- The scope that has given an answer to a request. -/
def record (s : Scope) (key answer : String) : Scope :=
  { s with answers := s.answers.set key answer, used := answer :: s.used }

/-- A request is answered from memory, or with a new name that is taken from then on. -/
theorem sanitize_cases (s : Scope) (name : String) (form : LetterCase) (suffix : String) :
    (∃ answer, s.answers.get? (requestKey name form suffix) = some answer ∧
      s.sanitize name form suffix = (answer, s)) ∨
    (∃ answer, s.answers.get? (requestKey name form suffix) = none ∧
      answer = s.resolve (safeForm name form) suffix ∧ answer ∉ s.used ∧
      s.sanitize name form suffix = (answer, s.record (requestKey name form suffix) answer)) := by
  cases h : s.answers.get? (requestKey name form suffix) with
  | some answer =>
    refine Or.inl ⟨answer, rfl, ?_⟩
    simp only [sanitize, h]
  | none =>
    refine Or.inr ⟨_, rfl, rfl, resolve_not_mem _ _ _, ?_⟩
    simp only [sanitize, h]
    rfl

/-! ### Sound scopes -/

/-- Every answer is a taken name, and different requests have different answers. -/
structure Sound (s : Scope) : Prop where
  used : ∀ {key answer}, s.answers.get? key = some answer → answer ∈ s.used
  injective : ∀ {key key' answer}, s.answers.get? key = some answer →
    s.answers.get? key' = some answer → key = key'

theorem Sound.of_no_answers {s : Scope} (h : s.answers = []) : s.Sound where
  used h1 := by simp [h, Assoc.get?_nil] at h1
  injective h1 := by simp [h, Assoc.get?_nil] at h1

theorem Sound.record {s : Scope} (h : s.Sound) {key answer : String} (hfree : answer ∉ s.used) :
    (s.record key answer).Sound where
  used {k a} h1 := by
    rw [Scope.record, Assoc.get?_set] at h1
    by_cases hk : k = key
    · rw [if_pos hk, Option.some.injEq] at h1
      exact h1 ▸ List.mem_cons_self
    · rw [if_neg hk] at h1
      exact List.mem_cons_of_mem _ (h.used h1)
  injective {k k' a} h1 h2 := by
    rw [Scope.record, Assoc.get?_set] at h1 h2
    by_cases hk : k = key
    · by_cases hk' : k' = key
      · exact hk.trans hk'.symm
      · rw [if_pos hk, Option.some.injEq] at h1
        rw [if_neg hk'] at h2
        exact absurd (h1 ▸ h.used h2) hfree
    · rw [if_neg hk] at h1
      by_cases hk' : k' = key
      · rw [if_pos hk', Option.some.injEq] at h2
        exact absurd (h2 ▸ h.used h1) hfree
      · rw [if_neg hk'] at h2
        exact h.injective h1 h2

theorem Sound.sanitize {s : Scope} (h : s.Sound) (name : String) (form : LetterCase)
    (suffix : String) : (s.sanitize name form suffix).2.Sound := by
  rcases sanitize_cases s name form suffix with ⟨a, -, he⟩ | ⟨a, -, -, hfree, he⟩
  · rwa [he]
  · rw [he]
    exact h.record hfree

/-! ### Later scopes -/

/-- The second scope comes after the first one: it has the same words, remembers every answer and
keeps every name taken, and what it has answered since is none of the names taken before. -/
structure Extends (s t : Scope) : Prop where
  keywords : t.keywords = s.keywords
  builtins : t.builtins = s.builtins
  answers : ∀ {key answer}, s.answers.get? key = some answer → t.answers.get? key = some answer
  used : s.used ⊆ t.used
  fresh : ∀ {key answer}, t.answers.get? key = some answer →
    s.answers.get? key = some answer ∨ answer ∉ s.used

theorem Extends.refl (s : Scope) : s.Extends s where
  keywords := rfl
  builtins := rfl
  answers h := h
  used := List.Subset.refl _
  fresh h := Or.inl h

theorem Extends.trans {s t u : Scope} (h : s.Extends t) (h' : t.Extends u) : s.Extends u where
  keywords := h'.keywords.trans h.keywords
  builtins := h'.builtins.trans h.builtins
  answers ha := h'.answers (h.answers ha)
  used := List.Subset.trans h.used h'.used
  fresh ha := by
    rcases h'.fresh ha with h1 | h1
    · exact h.fresh h1
    · exact Or.inr fun h2 => h1 (h.used h2)

theorem extends_record {s : Scope} {key answer : String} (hkey : s.answers.get? key = none)
    (hfree : answer ∉ s.used) : s.Extends (s.record key answer) where
  keywords := rfl
  builtins := rfl
  answers {k a} ha := by
    have hk : k ≠ key := by
      rintro rfl
      rw [hkey] at ha
      exact nomatch ha
    rw [record, Assoc.get?_set, if_neg hk]
    exact ha
  used := List.subset_cons_self answer s.used
  fresh {k a} ha := by
    rw [record, Assoc.get?_set] at ha
    by_cases hk : k = key
    · rw [if_pos hk, Option.some.injEq] at ha
      exact Or.inr (ha ▸ hfree)
    · rw [if_neg hk] at ha
      exact Or.inl ha

theorem extends_sanitize (s : Scope) (name : String) (form : LetterCase) (suffix : String) :
    s.Extends (s.sanitize name form suffix).2 := by
  rcases sanitize_cases s name form suffix with ⟨a, -, he⟩ | ⟨a, hkey, -, hfree, he⟩
  · rw [he]
    exact .refl s
  · rw [he]
    exact extends_record hkey hfree

end Scope
end Naming
end TrackingPlan
