import Mathlib.Algebra.Order.Field.Rat
import Mathlib.Algebra.Order.Group.Abs
import Mathlib.Data.Rat.Cast.CharZero
import Reckoner.Binary64.Arithmetic

/-!
# Exact values

A finite number is a whole number of grains and so a rational number. To be nearest to a rational
number is said of finite numbers alone, with no regard to how the nearest one may be found.
-/

namespace Reckoner.Binary64

set_option autoImplicit false

def rational? : Binary64 → Option ℚ
  | finite negative rank => some (signedGrains negative rank / grainsPerOne)
  | _ => none

/-- The number is finite and no finite number is nearer to the rational one. -/
def IsNearestTo (value : Binary64) (number : ℚ) : Prop :=
  ∃ own, value.rational? = some own ∧
    ∀ (other : Binary64) (its : ℚ), other.rational? = some its → |own - number| ≤ |its - number|

theorem rational_eq_some {value : Binary64} {number : ℚ} :
    value.rational? = some number ↔
      ∃ negative rank, value = .finite negative rank ∧
        number = signedGrains negative rank / grainsPerOne := by
  constructor
  · intro named
    cases value with
    | nan => contradiction
    | infinite => contradiction
    | finite negative rank => exact ⟨negative, rank, rfl, (Option.some.inj named).symm⟩
  · rintro ⟨negative, rank, rfl, rfl⟩
    rfl

theorem rational_eq_none {value : Binary64} :
    value.rational? = none ↔ value.isFinite = false := by
  cases value with
  | nan => exact iff_of_true rfl rfl
  | infinite => exact iff_of_true rfl rfl
  | finite => exact iff_of_false nofun nofun

theorem IsNearestTo.exists_finite {value : Binary64} {number : ℚ}
    (nearest : value.IsNearestTo number) : ∃ negative rank, value = .finite negative rank := by
  obtain ⟨own, known, _⟩ := nearest
  obtain ⟨negative, rank, same, _⟩ := rational_eq_some.1 known
  exact ⟨negative, rank, same⟩

end Reckoner.Binary64
