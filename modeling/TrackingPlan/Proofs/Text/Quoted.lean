import TrackingPlan.Text.Quoted

/-!
# Quoted text has no line feed

Key theorem: `plain_quote`.
-/

namespace TrackingPlan
namespace Text

theorem digitChar_ne_newline : ∀ n < 16, '\n' ≠ Nat.digitChar n := by decide

theorem plain_escape (c : Char) : '\n' ∉ escape c := by
  unfold escape
  split
  case h_8 hne _ _ _ _ =>
    split
    · have hhigh : '\n' ≠ Nat.digitChar (c.toNat / 16) := digitChar_ne_newline _ (by omega)
      have hlow : '\n' ≠ Nat.digitChar (c.toNat % 16) := digitChar_ne_newline _ (by omega)
      simp [hhigh, hlow]
    · rw [List.mem_singleton]
      exact fun h => hne h.symm
  all_goals decide

/-- A quoted text is on one line, whatever is in it. -/
theorem plain_quote (s : String) : '\n' ∉ (quote s).toList := by
  rw [quote, quoted, String.toList_ofList, List.cons_append, List.mem_cons, List.mem_append,
    List.mem_flatMap]
  rintro (h | ⟨c, -, hc⟩ | h)
  · exact absurd h (by decide)
  · exact plain_escape c hc
  · exact absurd h (by decide)

end Text
end TrackingPlan
