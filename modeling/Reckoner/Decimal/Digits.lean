import Reckoner.Text.Basic

/-!
# Decimal numerals

The digits of a natural number, without leading zeros or padded to a width, and the number that a
run of digits stands for.
-/

namespace Reckoner.Decimal

set_option autoImplicit false

def digit (value : Nat) : Char :=
  Char.ofNat (48 + value)

/-- The digits of a number in front of a text. -/
def numeralBefore (value : Nat) (rest : Text) : Text :=
  if value < 10 then digit value :: rest
  else numeralBefore (value / 10) (digit (value % 10) :: rest)
termination_by value

/-- The digits of a number without leading zeros; zero is the single digit 0. -/
def numeral (value : Nat) : Text :=
  numeralBefore value []

/-- The last `width` digits of a number, padded with zeros. -/
def padded : Nat → Nat → Text
  | 0, _ => []
  | width + 1, value => padded width (value / 10) ++ [digit (value % 10)]

def integerNumeral (value : Int) : Text :=
  if value < 0 then '-' :: numeral value.natAbs else numeral value.natAbs

/-- The number that a run of digits stands for; the empty run stands for zero. -/
def valueOf (digits : Text) : Nat :=
  digits.foldl (fun value c => 10 * value + (c.toNat - 48)) 0

/-- A run of digits without the zeros at its end. -/
def trimZeros (digits : Text) : Text :=
  (digits.reverse.dropWhile (· == '0')).reverse

end Reckoner.Decimal
