import Mathlib.Data.List.Basic
import TrackingPlan.Naming.Snake

/-!
# The characters of words

What the steps of `snakeWord` take away or put in: trimming and collapsing only drop characters,
and no upper case letter is left.

Key theorem: `isUpper_of_mem_snakeWord`.
-/

namespace TrackingPlan
namespace Naming

theorem isUpper_toLower (c : Char) : c.toLower.isUpper = false := by
  delta Char.toLower Char.isUpper
  simp only [ge_iff_le, UInt32.le_iff_toNat_le]
  split
  · rename_i h
    have hn : (c.val + ('a'.val - 'A'.val)).toNat = c.val.toNat + 32 := by
      rw [UInt32.toNat_add]
      have : ('a'.val - 'A'.val).toNat = 32 := rfl
      have : 'Z'.val.toNat = 90 := rfl
      omega
    have h1 : 'A'.val.toNat = 65 := rfl
    have h2 : 'Z'.val.toNat = 90 := rfl
    simp only [hn, decide_eq_false_iff_not]
    omega
  · rename_i h
    simpa using h

theorem isUpper_of_isDigit {c : Char} (h : c.isDigit) : c.isUpper = false := by
  have h9 : '9'.val.toNat = 57 := rfl
  have hA : 'A'.val.toNat = 65 := rfl
  simp only [Char.isDigit, Bool.and_eq_true, decide_eq_true_eq, ge_iff_le,
    UInt32.le_iff_toNat_le] at h
  delta Char.isUpper
  simp only [ge_iff_le, UInt32.le_iff_toNat_le, decide_eq_false_iff_not]
  omega

theorem mem_of_mem_trimUnderscores {c : Char} {s : List Char} (h : c ∈ trimUnderscores s) :
    c ∈ s := by
  have h1 := (List.dropWhile_sublist _).subset (List.mem_reverse.mp h)
  exact (List.dropWhile_sublist _).subset (List.mem_reverse.mp h1)

theorem collapseUnderscores_sublist : ∀ s : List Char, (collapseUnderscores s).Sublist s
  | [] => List.Sublist.refl _
  | [_] => List.Sublist.refl _
  | a :: b :: rest => by
    rw [collapseUnderscores]
    split
    · exact (collapseUnderscores_sublist (b :: rest)).cons a
    · exact (collapseUnderscores_sublist (b :: rest)).cons_cons a

theorem isUpper_of_mem_snakeWord {c : Char} {s : List Char} (h : c ∈ snakeWord s) :
    c.isUpper = false := by
  have h1 := (collapseUnderscores_sublist _).subset (mem_of_mem_trimUnderscores h)
  obtain ⟨d, -, rfl⟩ := List.mem_map.mp h1
  exact isUpper_toLower d

end Naming
end TrackingPlan
