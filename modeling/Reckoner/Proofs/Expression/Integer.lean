import Reckoner.Proofs.Binary64.Integer
import Reckoner.Proofs.Expression.Grammar

/-!
# Expressions of integers

Expressions of whole numbers, signs, sums, differences and products have a value over the integers
as well. It is the value they come to in double precision as long as nothing in them exceeds 2^53.
-/

namespace Reckoner.Expression

open Binary64 (IsInteger)

set_option autoImplicit false

/-- The expression comes to the integer by the arithmetic of the integers. The numbers it is made
of, the integer itself and all results on the way are at most 2^53 on either side of zero. -/
inductive Tree.ComesTo : Tree → Int → Prop
  | literal {digits : Text} :
      Decimal.valueOf digits ≤ 2 ^ 53 →
      ComesTo (.leaf (.ofNumeral ⟨digits, [], false⟩)) (Decimal.valueOf digits)
  | plus {operand : Tree} {integer : Int} :
      ComesTo operand integer → ComesTo (.signed .plus operand) integer
  | minus {operand : Tree} {integer : Int} :
      ComesTo operand integer → ComesTo (.signed .minus operand) (-integer)
  | sum {left right : Tree} {first second : Int} :
      ComesTo left first → ComesTo right second → (first + second).natAbs ≤ 2 ^ 53 →
      ComesTo (.combined .plus left right) (first + second)
  | difference {left right : Tree} {first second : Int} :
      ComesTo left first → ComesTo right second → (first - second).natAbs ≤ 2 ^ 53 →
      ComesTo (.combined .minus left right) (first - second)
  | product {left right : Tree} {first second : Int} :
      ComesTo left first → ComesTo right second → (first * second).natAbs ≤ 2 ^ 53 →
      ComesTo (.combined .times left right) (first * second)

variable {tree : Tree} {integer : Int}

theorem Tree.ComesTo.not_share (comes : tree.ComesTo integer) : tree.isShare = false := by
  induction comes with
  | plus _ ih => exact ih
  | minus _ ih => exact ih
  | literal | sum | difference | product => rfl

theorem Tree.value_literal (numeral : Numeral) :
    (leaf (.ofNumeral numeral)).value = numeral.value := rfl

theorem value_whole_numeral (digits : Text) :
    Numeral.value ⟨digits, [], false⟩ = Binary64.ofDecimal (Decimal.valueOf digits) 0 := by
  rw [Numeral.value, if_neg Bool.false_ne_true, Numeral.plainValue, List.append_nil]
  rfl

/-- In double precision the expression comes to the same integer. -/
theorem Tree.ComesTo.is_integer (comes : tree.ComesTo integer) : IsInteger tree.value integer := by
  induction comes with
  | @literal digits bounded =>
      rw [Tree.value_literal, value_whole_numeral]
      exact Binary64.is_integer_of_decimal bounded
  | plus _ ih => exact ih
  | minus _ ih => exact ih.neg
  | sum left right bounded ihLeft ihRight =>
      rw [Tree.value, if_neg (by simp [right.not_share]), if_neg (by simp [left.not_share])]
      exact ihLeft.add ihRight bounded
  | difference left right bounded ihLeft ihRight =>
      rw [Tree.value, if_neg (by simp [right.not_share]), if_neg (by simp [left.not_share])]
      exact ihLeft.sub ihRight bounded
  | product _ _ bounded ihLeft ihRight =>
      rw [Tree.value]
      exact ihLeft.mul ihRight bounded

end Reckoner.Expression
