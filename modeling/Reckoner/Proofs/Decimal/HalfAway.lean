import Mathlib.Algebra.Order.Field.Rat
import Mathlib.Algebra.Order.Group.Abs
import Mathlib.Data.Rat.Cast.CharZero
import Mathlib.Tactic.FieldSimp
import Mathlib.Tactic.Linarith
import Reckoner.Proofs.Decimal.Rounding

/-!
# Rounding rational numbers

A rational number is rounded to the nearest integer, and where two are equally near to the one
further away from zero. There is exactly one such integer, and the rounded quotient of two natural
numbers is that of their ratio.
-/

namespace Reckoner.Decimal

set_option autoImplicit false

/-- Every other integer is further away from the number, or as far away and no further from zero. -/
def IsRounded (number : ℚ) (count : ℤ) : Prop :=
  ∀ other : ℤ, |number - count| < |number - other| ∨
    (|number - count| = |number - other| ∧ |other| ≤ |count|)

section Rounded

variable {number : ℚ} {count other : ℤ}

theorem IsRounded.neg (rounded : IsRounded number count) : IsRounded (-number) (-count) := by
  have mirrored : ∀ integer : ℤ, |-number - integer| = |number - (-integer : ℤ)| := by
    intro integer
    rw [← abs_neg, Int.cast_neg]
    congr 1
    linarith
  intro other
  rw [mirrored, mirrored, neg_neg, abs_neg, ← abs_neg other]
  exact rounded (-other)

theorem IsRounded.bounds (nonneg : 0 ≤ number) (rounded : IsRounded number count) :
    (count : ℚ) - 1 / 2 ≤ number ∧ number < count + 1 / 2 := by
  constructor
  · by_contra below
    have nearer : |number - (count - 1 : ℤ)| < |number - count| := by
      rw [Int.cast_sub, Int.cast_one, abs_of_neg (show number - count < 0 by linarith), abs_lt]
      constructor <;> linarith
    rcases rounded (count - 1) with further | ⟨same, _⟩ <;> linarith
  · by_contra above
    have distance : |number - count| = number - count := abs_of_nonneg (by linarith)
    have noFurther : |number - (count + 1 : ℤ)| ≤ number - count := by
      rw [Int.cast_add, Int.cast_one, abs_le]
      constructor <;> linarith
    rcases rounded (count + 1) with further | ⟨same, smaller⟩
    · linarith
    · -- The number is halfway to the next integer, which is further from zero.
      have halfway : number = count + 1 / 2 := by
        rw [distance, Int.cast_add, Int.cast_one] at same
        rcases abs_cases (number - (count + 1)) with ⟨value, _⟩ | ⟨value, _⟩ <;> linarith
      have behind : (-1 : ℚ) < count := by linarith
      have countNonneg : -1 < count := by exact_mod_cast behind
      rw [abs_of_nonneg (by omega), abs_of_nonneg (by omega)] at smaller
      omega

theorem is_rounded_of_bounds (nonneg : 0 ≤ number) (above : (count : ℚ) - 1 / 2 ≤ number)
    (below : number < count + 1 / 2) : IsRounded number count := by
  have near : |number - count| ≤ 1 / 2 := abs_le.2 ⟨by linarith, by linarith⟩
  have countNonneg : 0 ≤ count := by
    have behind : (-1 : ℚ) < count := by linarith
    have integral : -1 < count := by exact_mod_cast behind
    omega
  intro other
  rcases lt_trichotomy other count with lower | rfl | higher
  · have apart : (other : ℚ) + 1 ≤ count := by exact_mod_cast lower
    have far : 1 / 2 ≤ |number - other| := le_abs.2 (.inl (by linarith))
    rcases lt_or_eq_of_le (near.trans far) with nearer | same
    · exact .inl nearer
    · refine .inr ⟨same, ?_⟩
      have otherNonneg : 0 ≤ other := by
        have half := le_of_abs_le (same ▸ near)
        have behind : (-1 : ℚ) < other := by linarith
        have integral : -1 < other := by exact_mod_cast behind
        omega
      rw [abs_of_nonneg otherNonneg, abs_of_nonneg countNonneg]
      omega
  · exact .inr ⟨rfl, le_rfl⟩
  · have apart : (count : ℚ) + 1 ≤ other := by exact_mod_cast higher
    have far : 1 / 2 < |number - other| := lt_abs.2 (.inr (by linarith))
    exact .inl (near.trans_lt far)

theorem IsRounded.unique (first : IsRounded number count) (second : IsRounded number other) :
    count = other := by
  -- Below zero both integers are opposites of those of the opposite number.
  wlog nonneg : 0 ≤ number generalizing number count other
  · exact neg_inj.1 (this first.neg second.neg (by linarith))
  obtain ⟨above, below⟩ := first.bounds nonneg
  obtain ⟨otherAbove, otherBelow⟩ := second.bounds nonneg
  have least : (count : ℚ) < other + 1 := by linarith
  have greatest : (other : ℚ) < count + 1 := by linarith
  norm_cast at least greatest
  omega

end Rounded

theorem is_rounded_round_half_up (numerator : Nat) {denominator : Nat}
    (positive : 0 < denominator) :
    IsRounded (numerator / denominator) (roundHalfUp numerator denominator) := by
  obtain ⟨above, below⟩ := round_half_up_bounds numerator positive
  have scale : (0 : ℚ) < denominator := by exact_mod_cast positive
  apply is_rounded_of_bounds
  · exact div_nonneg (Nat.cast_nonneg _) (Nat.cast_nonneg _)
  · rw [le_div_iff₀ scale]
    have cast : (2 : ℚ) * (roundHalfUp numerator denominator * denominator) ≤
        2 * numerator + denominator := by exact_mod_cast above
    push_cast
    linarith
  · rw [div_lt_iff₀ scale]
    have cast : (2 : ℚ) * numerator <
        2 * (roundHalfUp numerator denominator * denominator) + denominator := by
      exact_mod_cast below
    push_cast
    linarith

end Reckoner.Decimal
