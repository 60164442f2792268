import Mathlib.Data.Nat.Digits.Defs
import TrackingPlan.Number.Digits
import TrackingPlan.Number.Reader

/-!
# How many digits a number has

A number that is written with some digits is below the power of ten with as many zeros, so it has no
more digits than it was written with, and a power of ten has more digits than zeros.

Key theorems: `length_toDigits_digitsValue_le`, `lt_digitCount`, `integerText?_eq_some`,
`integerText?_eq_none`.
-/

namespace TrackingPlan

/-- Digits write a number below the power of ten with as many zeros. -/
theorem ofDigitChars_lt {digits : List Char} (h : ∀ c ∈ digits, c.isDigit) (init : Nat) :
    Nat.ofDigitChars 10 digits init < (init + 1) * 10 ^ digits.length := by
  induction digits generalizing init with
  | nil => simp
  | cons c digits ih =>
    obtain ⟨hc, hrest⟩ := List.forall_mem_cons.mp h
    have hdigit : c.toNat - '0'.toNat < 10 := by
      simp only [Char.isDigit, Bool.and_eq_true, decide_eq_true_eq] at hc
      have hhigh : c.toNat ≤ 57 := hc.2
      show c.toNat - 48 < 10
      omega
    rw [Nat.ofDigitChars_cons]
    refine Nat.lt_of_lt_of_le (ih hrest _) ?_
    rw [List.length_cons, Nat.pow_succ', ← Nat.mul_assoc]
    exact Nat.mul_le_mul_right _ (by omega)

/-- A number has no more digits than were read. -/
theorem length_toDigits_digitsValue_le {digits : List Char} (h : ∀ c ∈ digits, c.isDigit)
    (hpos : 0 < digits.length) :
    (Nat.toDigits 10 (Double.digitsValue digits)).length ≤ digits.length := by
  refine Nat.toDigits_length 10 _ _ hpos ?_
  have hlt := ofDigitChars_lt h 0
  rwa [Nat.zero_add, Nat.one_mul] at hlt

/-- A number from a power of ten on has more digits than the power has zeros. -/
theorem lt_digitCount {n : Int} {k : Nat} (h : 10 ^ k ≤ n.natAbs) : k < digitCount n := by
  have hdigits : ∀ c ∈ Nat.toDigits 10 n.natAbs, c.isDigit :=
    fun c hc => Nat.isDigit_of_mem_toDigits (by omega) (by omega) hc
  have hlt := ofDigitChars_lt hdigits 0
  rw [Nat.ofDigitChars_ten_toDigits, Nat.zero_add, Nat.one_mul] at hlt
  exact (Nat.pow_lt_pow_iff_right (by omega)).mp (Nat.lt_of_le_of_lt h hlt)

theorem integerText?_eq_some {n : Int} {text : String} :
    integerText? n = some text ↔ digitCount n ≤ maxIntegerDigits ∧ toString n = text := by
  unfold integerText?
  split <;> simp_all

theorem integerText?_eq_none {n : Int} :
    integerText? n = none ↔ maxIntegerDigits < digitCount n := by
  unfold integerText?
  split <;> simp_all

/-- The least integer without a text that is above zero. -/
def longInteger : Int := 10 ^ maxIntegerDigits

theorem integerText?_longInteger : integerText? longInteger = none := by
  have hten : (10 : Int).natAbs = 10 := rfl
  refine integerText?_eq_none.mpr (lt_digitCount (Nat.le_of_eq ?_))
  rw [longInteger, Int.natAbs_pow, hten]

end TrackingPlan
