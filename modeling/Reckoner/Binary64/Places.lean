import Reckoner.Binary64.Shortest

/-!
# Texts of a set precision

A finite magnitude is written with so many places behind the point, with so many digits and a power
of ten, or in the one of these two forms that suits its size. The exact magnitude is rounded once to
the digits that are written, a half to the even digit.
-/

namespace Reckoner.Binary64

set_option autoImplicit false

/-- The digits before and behind a point. Without digits behind it the point is left out, unless it
is to be kept. -/
def pointed (keepPoint : Bool) (whole fraction : Text) : Text :=
  if fraction.isEmpty && !keepPoint then whole else whole ++ '.' :: fraction

def fixedText (keepPoint : Bool) (grains places : Nat) : Text :=
  let count := roundHalfEven (grains * Nat.pow 10 places) grainsPerOne
  pointed keepPoint (Decimal.numeral (count / Nat.pow 10 places))
    (Decimal.padded places (count % Nat.pow 10 places))

/-- The first digits of a magnitude and the power of ten that the first of them counts. -/
structure LeadingDigits where
  digits : Text
  exponent : Int
deriving DecidableEq, Repr

/-- The first digits of a magnitude, rounded to so many. Rounding up to a power of ten makes one
digit more, which is a zero and left out. -/
def leadingDigits (grains count : Nat) : LeadingDigits :=
  if grains = 0 then ⟨List.replicate count '0', 0⟩
  else
    let point := pointPosition grains grainsPerOne
    let shift : Int := count - point
    let rounded :=
      roundHalfEven (grains * Nat.pow 10 shift.toNat)
        (grainsPerOne * Nat.pow 10 (-shift).toNat)
    ⟨(Decimal.numeral rounded).take count, if rounded < Nat.pow 10 count then point - 1 else point⟩

def scientificText (keepPoint : Bool) (grains places : Nat) : Text :=
  let leading := leadingDigits grains (places + 1)
  pointed keepPoint (leading.digits.take 1) (leading.digits.drop 1)
    ++ 'e' :: exponentText leading.exponent

/-- A magnitude with so many digits, in positional form if its power of ten is at least -4 and less
than the number of digits. Zeros at the end of the fraction are kept together with the point. -/
def generalText (keepPoint : Bool) (grains count : Nat) : Text :=
  let leading := leadingDigits grains count
  let fraction := fun (digits : Text) => if keepPoint then digits else Decimal.trimZeros digits
  if -4 ≤ leading.exponent ∧ leading.exponent < count then
    if leading.exponent < 0 then
      let zeros := List.replicate (-leading.exponent - 1).toNat '0'
      pointed keepPoint ['0'] (fraction (zeros ++ leading.digits))
    else
      let before := leading.exponent.toNat + 1
      pointed keepPoint (leading.digits.take before) (fraction (leading.digits.drop before))
  else
    pointed keepPoint (leading.digits.take 1) (fraction (leading.digits.drop 1))
      ++ 'e' :: exponentText leading.exponent

end Reckoner.Binary64
