import TrackingPlan.Text.Lines

/-!
# The three ends of a line

A line ends in a line feed, in a carriage return, or in both of them in this order; with every end
turned into a line feed the characters between two ends are what they were. So what a text holds
from its start up to a line end can be seen in either form.

Key theorems: `normalizeNewlines_cons`, `exists_of_normalizeNewlines_eq_append`,
`dropWhile_normalizeNewlines`, `takeWhile_normalizeNewlines`.
-/

namespace TrackingPlan
namespace Text

@[simp] theorem normalizeNewlines_nil : normalizeNewlines [] = [] := rfl

theorem normalizeNewlines_cons {c : Char} (h : c ≠ '\r') (s : List Char) :
    normalizeNewlines (c :: s) = c :: normalizeNewlines s := by
  rw [normalizeNewlines]
  · exact fun _ hc => absurd hc h
  · exact fun hc => absurd hc h

theorem normalizeNewlines_return {s : List Char} (h : s.head? ≠ some '\n') :
    normalizeNewlines ('\r' :: s) = '\n' :: normalizeNewlines s := by
  rw [normalizeNewlines]
  rintro rest rfl
  exact h rfl

/-- A carriage return ends a line, with the line feed after it or alone. -/
theorem exists_normalizeNewlines_return (s : List Char) :
    ∃ t, normalizeNewlines ('\r' :: s) = '\n' :: t := by
  by_cases h : s.head? = some '\n'
  · obtain ⟨rest, rfl⟩ := List.head?_eq_some_iff.mp h
    exact ⟨normalizeNewlines rest, rfl⟩
  · exact ⟨normalizeNewlines s, normalizeNewlines_return h⟩

/-- A text is empty, starts with a carriage return, or starts with another character. -/
theorem normalizeNewlines_cases {motive : List Char → List Char → Prop} (nil : motive [] [])
    (newline : ∀ s t, normalizeNewlines ('\r' :: s) = '\n' :: t → motive ('\r' :: s) ('\n' :: t))
    (plain : ∀ c s, c ≠ '\r' → motive (c :: s) (c :: normalizeNewlines s)) (s : List Char) :
    motive s (normalizeNewlines s) := by
  cases s with
  | nil => exact nil
  | cons c s =>
    by_cases hc : c = '\r'
    · subst hc
      obtain ⟨t, ht⟩ := exists_normalizeNewlines_return s
      exact ht ▸ newline s t ht
    · exact normalizeNewlines_cons hc s ▸ plain c s hc

/-- A text without carriage returns is as it was. -/
theorem normalizeNewlines_append {a : List Char} (h : '\r' ∉ a) (s : List Char) :
    normalizeNewlines (a ++ s) = a ++ normalizeNewlines s := by
  induction a with
  | nil => rfl
  | cons c a ih =>
    rw [List.mem_cons, not_or] at h
    rw [List.cons_append, normalizeNewlines_cons (Ne.symm h.1), ih h.2, List.cons_append]

/-- A character that is no line feed was there before. -/
theorem exists_of_normalizeNewlines_eq_cons {c : Char} {s t : List Char} (hc : c ≠ '\n')
    (h : normalizeNewlines s = c :: t) : ∃ r, s = c :: r ∧ normalizeNewlines r = t := by
  cases s with
  | nil => exact nomatch h
  | cons d s =>
    by_cases hd : d = '\r'
    · subst hd
      obtain ⟨u, hu⟩ := exists_normalizeNewlines_return s
      rw [hu] at h
      exact absurd (List.cons.inj h).1.symm hc
    · rw [normalizeNewlines_cons hd] at h
      obtain ⟨rfl, ht⟩ := List.cons.inj h
      exact ⟨s, rfl, ht⟩

/-- Characters without a line feed were there before. -/
theorem exists_of_normalizeNewlines_eq_append {a s t : List Char} (ha : '\n' ∉ a)
    (h : normalizeNewlines s = a ++ t) : ∃ r, s = a ++ r ∧ normalizeNewlines r = t := by
  induction a generalizing s with
  | nil => exact ⟨s, rfl, h⟩
  | cons c a ih =>
    rw [List.mem_cons, not_or] at ha
    obtain ⟨u, rfl, hu⟩ := exists_of_normalizeNewlines_eq_cons (Ne.symm ha.1) h
    obtain ⟨r, rfl, hr⟩ := ih ha.2 hu
    exact ⟨r, rfl, hr⟩

theorem length_normalizeNewlines_le (s : List Char) : (normalizeNewlines s).length ≤ s.length := by
  induction s using normalizeNewlines.induct with
  | case1 rest ih =>
    rw [normalizeNewlines, List.length_cons, List.length_cons, List.length_cons]
    omega
  | case2 rest hrest ih =>
    rw [normalizeNewlines, List.length_cons, List.length_cons]
    · omega
    · exact hrest
  | case3 c rest hboth hone ih =>
    have hc : c ≠ '\r' := hone
    rw [normalizeNewlines_cons hc, List.length_cons, List.length_cons]
    omega
  | case4 => exact Nat.le_refl _

section

variable {p : Char → Bool}

/-- What starts a text is dropped alike when both line ends are dropped or neither is. -/
theorem dropWhile_normalizeNewlines (h : p '\r' = p '\n') (s : List Char) :
    (normalizeNewlines s).dropWhile p = normalizeNewlines (s.dropWhile p) := by
  induction s using normalizeNewlines.induct with
  | case1 rest ih =>
    by_cases hp : p '\n'
    · have hcr : p '\r' := h.trans hp
      rw [normalizeNewlines, List.dropWhile_cons_of_pos hp, List.dropWhile_cons_of_pos hcr,
        List.dropWhile_cons_of_pos hp, ih]
    · have hcr : ¬ p '\r' := h ▸ hp
      rw [normalizeNewlines, List.dropWhile_cons_of_neg hp, List.dropWhile_cons_of_neg hcr,
        normalizeNewlines]
  | case2 rest hrest ih =>
    by_cases hp : p '\n'
    · have hcr : p '\r' := h.trans hp
      rw [normalizeNewlines, List.dropWhile_cons_of_pos hp, List.dropWhile_cons_of_pos hcr, ih]
      exact hrest
    · have hcr : ¬ p '\r' := h ▸ hp
      rw [List.dropWhile_cons_of_neg hcr, normalizeNewlines, List.dropWhile_cons_of_neg hp]
      exact hrest
  | case3 c rest hboth hone ih =>
    have hc : c ≠ '\r' := hone
    rw [normalizeNewlines_cons hc]
    by_cases hp : p c
    · rw [List.dropWhile_cons_of_pos hp, List.dropWhile_cons_of_pos hp, ih]
    · rw [List.dropWhile_cons_of_neg hp, List.dropWhile_cons_of_neg hp, normalizeNewlines_cons hc]
  | case4 => rfl

/-- What starts a text is the same when it does not go on after a line end. -/
theorem takeWhile_normalizeNewlines (hcr : p '\r' = false) (hlf : p '\n' = false)
    (s : List Char) : (normalizeNewlines s).takeWhile p = s.takeWhile p := by
  induction s with
  | nil => rfl
  | cons c s ih =>
    by_cases hc : c = '\r'
    · subst hc
      obtain ⟨t, ht⟩ := exists_normalizeNewlines_return s
      rw [ht, List.takeWhile_cons_of_neg (by simp [hlf]),
        List.takeWhile_cons_of_neg (by simp [hcr])]
    · rw [normalizeNewlines_cons hc]
      by_cases hp : p c
      · rw [List.takeWhile_cons_of_pos hp, List.takeWhile_cons_of_pos hp, ih]
      · rw [List.takeWhile_cons_of_neg hp, List.takeWhile_cons_of_neg hp]

end

end Text
end TrackingPlan
