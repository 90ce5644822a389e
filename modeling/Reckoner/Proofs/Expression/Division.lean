import Reckoner.Binary64.Arithmetic
import Reckoner.Proofs.Expression.Grammar

/-!
# Divisions by zero

A division by zero comes to no number, and what is calculated with no number is no number either,
on whichever side it stands. So one division by zero is enough for the whole expression to come to
no number.
-/

namespace Reckoner

set_option autoImplicit false

namespace Binary64

variable (value : Binary64)

@[simp] theorem neg_nan : -nan = nan := rfl

@[simp] theorem nan_add : nan + value = nan := rfl

@[simp] theorem add_nan : value + nan = nan := by
  cases value <;> rfl

@[simp] theorem nan_sub : nan - value = nan := rfl

@[simp] theorem sub_nan : value - nan = nan :=
  add_nan value

@[simp] theorem nan_mul : nan * value = nan := rfl

@[simp] theorem mul_nan : value * nan = nan := by
  cases value <;> rfl

@[simp] theorem nan_div : nan / value = nan := rfl

@[simp] theorem div_nan : value / nan = nan := by
  cases value <;> rfl

end Binary64

namespace Expression

/-- Somewhere in the expression a number is divided by one that comes to zero. -/
inductive Tree.DividesByZero : Tree → Prop
  | here {left right : Tree} :
      right.value.isZero = true → DividesByZero (.combined .divide left right)
  | signed {operand : Tree} (sign : Sign) :
      DividesByZero operand → DividesByZero (.signed sign operand)
  | left {left : Tree} (operator : Operator) (right : Tree) :
      DividesByZero left → DividesByZero (.combined operator left right)
  | right {right : Tree} (operator : Operator) (left : Tree) :
      DividesByZero right → DividesByZero (.combined operator left right)

namespace Tree

variable {operand left right : Tree}

theorem value_signed_of_nan (sign : Sign) (undefined : operand.value = .nan) :
    (signed sign operand).value = .nan := by
  cases sign <;> simp [value, undefined]

/-- A share is taken of the other operand, so that both sides of a sum or difference are calculated
with in every case. A divisor that is no number is not zero. -/
theorem value_combined_of_nan (operator : Operator)
    (undefined : left.value = .nan ∨ right.value = .nan) :
    (combined operator left right).value = .nan := by
  cases operator <;> rcases undefined with undefined | undefined <;> simp [value, undefined]

/-- One division by zero leaves the whole expression without a number. -/
theorem DividesByZero.value_eq_nan {tree : Tree} (divides : tree.DividesByZero) :
    tree.value = .nan := by
  induction divides with
  | here zero => rw [value, if_pos zero]
  | signed sign _ ih => exact value_signed_of_nan sign ih
  | left operator _ _ ih => exact value_combined_of_nan operator (.inl ih)
  | right operator _ _ ih => exact value_combined_of_nan operator (.inr ih)

end Tree

end Expression

end Reckoner
