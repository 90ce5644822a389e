import Reckoner.Binary64.Basic
import Reckoner.Decimal.Digits

/-!
# Shortest text of a number

A finite number is written with the fewest significant digits that read back as the same number, and
of these with the digits nearest to it. The decimal point stands in its place for decimal exponents
from -4 to 15; outside them the text has one digit before the point and an exponent with a sign and
at least two digits. A whole number in positional form keeps a fraction of one zero.
-/

namespace Reckoner.Binary64

set_option autoImplicit false

structure DecimalMagnitude where
  coefficient : Nat
  exponent : Int
deriving DecidableEq, Repr

/-- The number of digits before the decimal point of a positive ratio, zero or negative where zeros
follow the point: the least exponent of a power of ten above the ratio. -/
def pointPosition (numerator denominator : Nat) : Int :=
  if denominator ≤ numerator then (Decimal.numeral (numerator / denominator)).length
  else 1 - (Decimal.numeral ((denominator - 1) / numerator)).length

/-- Of the two neighbours of a positive magnitude on the grid of so many significant digits, the one
that reads back as the magnitude; the nearer one where both do. -/
def gridDecimal? (rank digits : Nat) : Option DecimalMagnitude :=
  let numerator := grainsOfRank rank
  let exponent := pointPosition numerator grainsPerOne - digits
  let scaled := numerator * Nat.pow 10 (-exponent).toNat
  let unit := grainsPerOne * Nat.pow 10 exponent.toNat
  let below := scaled / unit
  let twice := 2 * (scaled % unit)
  let readsBack := fun coefficient =>
    match ofScientific false coefficient exponent with
    | finite _ found => found.val == rank
    | _ => false
  let upper := unit < twice || (twice == unit && below % 2 == 1)
  let candidates := if upper then [below + 1, below] else [below, below + 1]
  (candidates.find? readsBack).map (⟨·, exponent⟩)

/-- The shortest decimal that reads back; seventeen digits always do. -/
def shortestDecimal (rank : Nat) : DecimalMagnitude :=
  ((List.range 17).findSome? fun fewer => gridDecimal? rank (fewer + 1)).getD ⟨0, 0⟩

/-- A decimal exponent with its sign and at least two digits. -/
def exponentText (exponent : Int) : Text :=
  let digits := Decimal.numeral exponent.natAbs
  (if exponent < 0 then '-' else '+') :: (if digits.length < 2 then '0' :: digits else digits)

/-- Significant digits, the first of them not zero, with the decimal point after so many of them. -/
def layout (digits : Text) (point : Int) : Text :=
  if -4 < point ∧ point ≤ 16 then
    if point ≤ 0 then '0' :: '.' :: List.replicate (-point).toNat '0' ++ digits
    else if (digits.length : Int) ≤ point then
      digits ++ List.replicate (point.toNat - digits.length) '0' ++ ['.', '0']
    else digits.take point.toNat ++ '.' :: digits.drop point.toNat
  else
    let fraction := digits.drop 1
    digits.take 1 ++ (if fraction.isEmpty then [] else '.' :: fraction)
      ++ 'e' :: exponentText (point - 1)

def text : Binary64 → Text
  | nan => "nan".toList
  | infinite negative => if negative then "-inf".toList else "inf".toList
  | finite negative rank =>
      let sign := if negative then ['-'] else []
      if rank.val = 0 then sign ++ "0.0".toList
      else
        let decimal := shortestDecimal rank
        let digits := Decimal.numeral decimal.coefficient
        sign ++ layout (Decimal.trimZeros digits) (digits.length + decimal.exponent)

end Reckoner.Binary64
